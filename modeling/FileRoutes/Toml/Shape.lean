import FileRoutes.Toml.Item
import FileRoutes.Decimal.Shortest
import FileRoutes.Text.Quoted

/-!
# Shapes of items

Settings are read from items of a required shape: a text, a list of texts, a
record or one of several named choices.  Names that a record does not know are
skipped, and a list in place of a record gives its fields in order.
-/

namespace FileRoutes
namespace Toml

/-- What is wrong with the shape of an item. -/
inductive Mismatch
  /-- An item of another kind than the expected one. -/
  | kind (found : Item) (expected : String)
  /-- A name that is none of the choices. -/
  | unknownChoice (found : String) (choices : List String)
  /-- A choice given by an item that is no text and no table. -/
  | notAChoice
  /-- A choice given by a table with no entry. -/
  | noChoice
  /-- A choice given by a table with more than one entry. -/
  | manyChoices
  /-- A choice that comes with content. -/
  | choiceContent (found : Item)

/-- A value read from an item, or what is wrong with the item. -/
abbrev Shaped (α : Type) := Except Mismatch α

namespace Item

/-- The kind of an item with its value, where the value is short. -/
def description : Item -> String
  | text value => "string " ++ Text.quoted value
  | integer value => "integer `" ++ toString value ++ "`"
  | float value => "floating point `" ++ value.toText ++ "`"
  | boolean value => "boolean `" ++ (if value then "true" else "false") ++ "`"
  | datetime | table _ _ => "map"
  | array _ | tables _ => "sequence"

/-- The name of the kind of an item. -/
def kindName : Item -> String
  | text _ => "string"
  | integer _ => "integer"
  | float _ => "float"
  | boolean _ => "boolean"
  | datetime => "datetime"
  | array _ => "array"
  | table .literal _ => "inline table"
  | table _ _ => "table"
  | tables _ => "array of tables"

/-- The elements of an item that is a list. -/
def elements? : Item -> Option (List Item)
  | array elements => some elements
  | tables elements => some (elements.map (table .header))
  | _ => none

/-- The entries of an item that is a table.  A date counts as a table with no
entry of interest. -/
def entries? : Item -> Option Entries
  | table _ entries => some entries
  | datetime => some []
  | _ => none

/-- Read a text. -/
def toText : Item -> Shaped String
  | text value => .ok value
  | item => .error (.kind item "a string")

/-- Read a list of texts. -/
def toTexts (item : Item) : Shaped (List String) :=
  match item.elements? with
  | some elements => elements.mapM toText
  | none => .error (.kind item "a sequence")

/-- Read a record: named entries are taken in one after the other, elements
of a list by their position. -/
def toRecord {α : Type} (name : String) (initial : α) (fields : List String)
    (take : α -> String -> Item -> Shaped α) (item : Item) : Shaped α :=
  match item.entries?, item.elements? with
  | some entries, _ =>
    entries.foldlM (fun record (key, entry) => take record key entry) initial
  | none, some elements =>
    (fields.zip elements).foldlM
      (fun record (key, entry) => take record key entry) initial
  | none, none => .error (.kind item ("struct " ++ name))

/-- Read a choice by its name. -/
def chooseNamed {α : Type} (choices : List (String × α)) (name : String) :
    Shaped α :=
  match choices.lookup name with
  | some choice => .ok choice
  | none => .error (.unknownChoice name (choices.map Prod.fst))

/-- Accept the content of a choice only when it is empty. -/
def acceptEmpty {α : Type} (choice : α) (content : Item) : Shaped α :=
  match content with
  | table _ [] | array [] | tables [] => .ok choice
  | _ => .error (.choiceContent content)

/-- Read one of several named choices: a text, or a table with the choice as
its only entry and nothing in it. -/
def toChoice {α : Type} (choices : List (String × α)) : Item -> Shaped α
  | text name => chooseNamed choices name
  | table _ [] => .error .noChoice
  | table _ [(name, content)] => do
    let choice ← chooseNamed choices name
    acceptEmpty choice content
  | table _ _ => .error .manyChoices
  | _ => .error .notAChoice

end Item

/-- Names between backquotes, as a choice is offered. -/
def offered : List String -> String
  | [] => "there are no variants"
  | [only] => "expected `" ++ only ++ "`"
  | [first, second] => "expected `" ++ first ++ "` or `" ++ second ++ "`"
  | names =>
    "expected one of " ++ ", ".intercalate (names.map fun name => "`" ++ name ++ "`")

/-- The text of a mismatch. -/
def Mismatch.message : Mismatch -> String
  | kind found expected =>
    "invalid type: " ++ found.description ++ ", expected " ++ expected
  | unknownChoice found choices =>
    "unknown variant `" ++ found ++ "`, " ++ offered choices
  | notAChoice => "wanted string or table"
  | noChoice => "wanted exactly 1 element, found 0 elements"
  | manyChoices => "wanted exactly 1 element, more than 1 element"
  | choiceContent (.tables _) => "expected empty array"
  | choiceContent (.table _ _) | choiceContent (.array _) => "expected empty table"
  | choiceContent found => "expected table, found " ++ found.kindName

end Toml
end FileRoutes
