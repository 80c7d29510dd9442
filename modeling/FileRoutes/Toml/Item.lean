import FileRoutes.Decimal.Binary

/-!
# Items of a document

A document is a table of items: scalars, arrays, tables and arrays of tables.
A table remembers how it came about, because that decides who may still add
to it.
-/

namespace FileRoutes
namespace Toml

/-- How a table came about. -/
inductive Origin
  /-- Written between braces; it is complete. -/
  | literal
  /-- Opened by a header of its own. -/
  | header
  /-- Named only as a parent in the header of another table. -/
  | implied
  /-- Named only as a parent in a dotted key. -/
  | dotted
deriving DecidableEq, Repr

namespace Origin

/-- Whether a table was never opened on its own. -/
def isImplicit : Origin -> Bool
  | implied | dotted => true
  | literal | header => false

end Origin

/-- An item of a document.  Dates and times are kept as a kind only. -/
inductive Item
  | text (value : String)
  | integer (value : Int)
  | float (value : Decimal.Binary)
  | boolean (value : Bool)
  | datetime
  | array (elements : List Item)
  | table (origin : Origin) (entries : List (String × Item))
  | tables (elements : List (List (String × Item)))

/-- Named items in the order in which they were inserted. -/
abbrev Entries := List (String × Item)

/-- A table that is still being filled. -/
structure Table where
  origin : Origin
  entries : Entries

namespace Table

/-- A table as an item. -/
def toItem (table : Table) : Item :=
  .table table.origin table.entries

/-- The item under a key. -/
def get? (table : Table) (key : String) : Option Item :=
  table.entries.lookup key

/-- Add an item after the others. -/
def append (table : Table) (key : String) (item : Item) : Table :=
  { table with entries := table.entries ++ [(key, item)] }

/-- Replace the item under a key, in its place. -/
def replace (table : Table) (key : String) (item : Item) : Table :=
  { table with
    entries := table.entries.map fun entry =>
      if entry.1 = key then (key, item) else entry }

/-- Remove the item under a key; the others keep their order. -/
def erase (table : Table) (key : String) : Table :=
  { table with entries := table.entries.filter fun entry => entry.1 ≠ key }

/-- Edit the table reached by following keys, adding tables that are missing.
Dotted keys may only pass through tables that were never opened on their own;
a key of an array of tables leads to its last element. -/
def descend {α : Type} (dotted : Bool) (edit : Table -> Option (Table × α)) :
    List String -> Table -> Option (Table × α)
  | [], table => edit table
  | key :: rest, table =>
    match table.get? key with
    | none => do
      let origin := if dotted then Origin.dotted else Origin.implied
      let (child, result) ← descend dotted edit rest ⟨origin, []⟩
      return (table.append key child.toItem, result)
    | some (.table origin entries) =>
      if origin = .literal || (dotted && !origin.isImplicit) then
        none
      else do
        let (child, result) ← descend dotted edit rest ⟨origin, entries⟩
        return (table.replace key child.toItem, result)
    | some (.tables elements) => do
      let last ← elements.getLast?
      let (child, result) ← descend dotted edit rest ⟨.header, last⟩
      return (table.replace key (.tables (elements.dropLast ++ [child.entries])),
        result)
    | some _ => none

/-- Store an item under a dotted key.  The key must be new, a single name may
not be added to a table that dotted keys made, and a dotted key may only add
to such a table. -/
def store (table : Table) (parents : List String) (key : String) (item : Item) :
    Option Table := do
  let add (target : Table) : Option (Table × Unit) :=
    if (target.origin == .dotted) == parents.isEmpty then none
    else if (target.get? key).isSome then none
    else some (target.append key item, ())
  let (stored, _) ← table.descend true add parents
  return stored

end Table
end Toml
end FileRoutes
