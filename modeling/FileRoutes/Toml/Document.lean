import FileRoutes.Toml.Quotation

/-!
# Documents

A document is a sequence of lines: keys with values, which fill the current
table, and headers, which open the next one.  Reading refuses a text that is
no document or that defines something twice.
-/

namespace FileRoutes
namespace Toml

open Reader

/-- A comment up to the end of the line. -/
def comment : Reader Unit := do
  let _ ← character '#'
  let _ ← zeroOrMore isPlain
  return ()

/-- White space, line breaks and comments between the elements of an
array. -/
def arrayFiller : Reader Unit := do
  let _ ← many ((oneOrMore isLineBlank *> pure ()) <|> lineBreak <|> comment)
  return ()

/-- An array of the given elements; the last may be followed by a comma. -/
def array (element : Reader Item) : Reader Item := do
  let _ ← character '['
  let elements ← optional
    (separated (arrayFiller *> element <* arrayFiller) (character ',') <*
      optional (character ','))
  arrayFiller
  let _ ← character ']'
  return .array (elements.getD [])

/-- Split a nonempty key into its parents and its last name. -/
def splitKey (names : List String) : Option (List String × String) :=
  names.getLast?.map fun last => (names.dropLast, last)

/-- A key with its value. -/
def assignment (value : Reader Item) : Reader (List String × Item) := do
  let names ← key
  let _ ← character '='
  let item ← blanks *> value
  return (names, item)

/-- A table between braces. -/
def inlineTable (value : Reader Item) : Reader Item :=
  verified
    (do
      let _ ← character '\x7b'
      let assignments ← optional
        (separated (assignment value <* blanks) (character ','))
      blanks
      let _ ← character '\x7d'
      return assignments.getD [])
    fun assignments => do
      let table ← assignments.foldlM
        (fun (table : Table) (names, item) => do
          let (parents, name) ← splitKey names
          table.store parents name item)
        ⟨.literal, []⟩
      return table.toItem

/-- A value with at most the given depth of nested arrays and tables. -/
def value : Nat -> Reader Item
  | 0 => scalarValue
  | depth + 1 => scalarValue <|> array (value depth) <|> inlineTable (value depth)
where
  /-- A value that holds no other values. -/
  scalarValue : Reader Item :=
    (do
      let content ← quotation
      return .text content) <|> scalar

/-- The rest of a line: blanks and perhaps a comment. -/
def lineEnd : Reader Unit := do
  blanks
  let _ ← optional comment
  lineBreak <|> atEnd

/-- A line of a document. -/
inductive Line
  | blank
  | assignment (names : List String) (item : Item)
  | header (names : List String)
  | elementHeader (names : List String)

/-- A line that holds no more than a comment. -/
def blankLine : Reader Line :=
  (do
    comment
    lineBreak <|> atEnd
    return .blank) <|>
  (do
    lineBreak
    return .blank)

/-- A header between single or doubled brackets. -/
def headerLine : Reader Line :=
  (do
    literal "[["
    let names ← key
    literal "]]"
    lineEnd
    return .elementHeader names) <|>
  (do
    let _ ← character '['
    let names ← key
    let _ ← character ']'
    lineEnd
    return .header names)

/-- A line with a key and its value. -/
def assignmentLine : Reader Line := do
  let (names, item) ← assignment (value (nestingLimit - 1))
  lineEnd
  return .assignment names item

/-- The lines of a whole document, after an optional byte-order mark. -/
def lines : Reader (List Line) := do
  let _ ← optional (character '\ufeff')
  blanks
  let found ← many ((blankLine <|> headerLine <|> assignmentLine) <* blanks)
  atEnd
  return found

/-- A document under construction: what is complete, and the table that is
being filled with the place where it belongs. -/
structure Draft where
  root : Table
  current : Table
  path : List String
  isElement : Bool

namespace Draft

/-- The draft of a document of which nothing has been read. -/
def empty : Draft :=
  { root := ⟨.header, []⟩, current := ⟨.header, []⟩, path := [], isElement := false }

/-- Put the current table into its place. -/
def finish (draft : Draft) : Option Table := do
  match splitKey draft.path with
  | none => return draft.current
  | some (parents, name) =>
    let place (parent : Table) : Option (Table × Unit) :=
      if draft.isElement then
        match parent.get? name with
        | none => some (parent.append name (.tables [draft.current.entries]), ())
        | some (.tables elements) =>
          some (parent.replace name (.tables (elements ++ [draft.current.entries])),
            ())
        | some _ => none
      else
        match parent.get? name with
        | none => some (parent.append name draft.current.toItem, ())
        | some (.table origin _) =>
          if origin.isImplicit then
            some (parent.replace name draft.current.toItem, ())
          else none
        | some _ => none
    let (root, _) ← draft.root.descend false place parents
    return root

/-- Open the table named by a header.  A table known only as a parent is
taken over with its entries and moves to the end. -/
def openTable (draft : Draft) (names : List String) : Option Draft := do
  let root ← draft.finish
  let (parents, name) ← splitKey names
  let take (parent : Table) : Option (Table × Entries) :=
    match parent.get? name with
    | none => some (parent, [])
    | some (.table .implied entries) => some (parent.erase name, entries)
    | some _ => none
  let (remaining, entries) ← root.descend false take parents
  return { root := remaining, current := ⟨.header, entries⟩, path := names,
           isElement := false }

/-- Open the next element of the array of tables named by a header. -/
def openElement (draft : Draft) (names : List String) : Option Draft := do
  let root ← draft.finish
  let (parents, name) ← splitKey names
  let reserve (parent : Table) : Option (Table × Unit) :=
    match parent.get? name with
    | none => some (parent.append name (.tables []), ())
    | some (.tables _) => some (parent, ())
    | some _ => none
  let (reserved, _) ← root.descend false reserve parents
  return { root := reserved, current := ⟨.header, []⟩, path := names,
           isElement := true }

/-- Take in one line. -/
def add (draft : Draft) : Line -> Option Draft
  | .blank => some draft
  | .assignment names item => do
    let (parents, name) ← splitKey names
    let current ← draft.current.store parents name item
    return { draft with current := current }
  | .header names => draft.openTable names
  | .elementHeader names => draft.openElement names

end Draft

/-- The entries of a document, if the text is one. -/
def parse? (text : String) : Option Entries := do
  let (found, _) ← lines text.toList
  let draft ← found.foldlM Draft.add Draft.empty
  let root ← draft.finish
  return root.entries

end Toml
end FileRoutes
