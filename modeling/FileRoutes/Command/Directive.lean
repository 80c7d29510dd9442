import FileRoutes.Pattern
import FileRoutes.Text.Alphabetic
import FileRoutes.Text.Split

/-!
# Directives of log filters

A directive is written `scope[span{field=value}]=level`, and every part
may be left out.  Blanks around a directive do not count when its marks are
looked for; its parts are then cut out of the whole text at the places of the
marks, counted in bytes.  So blanks in front shift every part, and blanks at
the end belong to the last one.
-/

namespace FileRoutes
namespace Command

/-- A condition on a field of an event. -/
structure FieldCondition where
  name : String
  /-- Whether the field must have a certain value. -/
  hasValue : Bool := false
deriving DecidableEq, Repr

namespace FieldCondition

/-- Read a condition: a name and perhaps a value, which is a number or a
pattern.  Whatever follows a second equals sign does not count. -/
def parse? (text : List Char) : Option FieldCondition :=
  match Text.splitAt (· == '=') text with
  | [] => none
  | [name] => some { name := String.ofList name }
  | name :: value :: _ =>
    if Text.isNumeral value || Pattern.isWellFormed value then
      some { name := String.ofList name, hasValue := true }
    else none

end FieldCondition

/-- One directive of a filter. -/
structure Directive where
  /-- How many levels are let through, from none to all five. -/
  level : Nat
  /-- What the scope of an event has to start with. -/
  scope : Option String := none
  /-- The span that an event has to be in. -/
  span : Option String := none
  /-- The field that an event must have. -/
  field : Option FieldCondition := none
deriving DecidableEq, Repr

namespace Directive

/-- The names of levels. -/
def levelNames : List (String × Nat) :=
  [("off", 0), ("error", 1), ("warn", 2), ("info", 3), ("debug", 4), ("trace", 5)]

/-- The level that lets everything through. -/
def everything : Nat := 5

/-- The number written by decimal digits after an optional plus sign. -/
def number? (text : List Char) : Option Nat :=
  let digits :=
    match text with
    | '+' :: rest => rest
    | _ => text
  if Text.areDigits digits then some (Text.numberOf 10 digits) else none

/-- The level with a name in any case, or with a number. -/
def level? (text : List Char) : Option Nat :=
  match number? text with
  | some number => if number ≤ everything then some number else none
  | none => levelNames.lookup (String.ofList (text.map Char.toLower))

/-- Whether a directive may start with a character: a letter, a digit or a
mark of scopes. -/
def canStart (character : Char) : Bool :=
  ['-', ':', '_'].contains character || Text.isAlphanumeric character

/-- How far a directive has been read.  The numbers are the bytes at which
the parts start. -/
inductive Stage
  | start
  | levelOrScope
  | span (first : Nat)
  | field (first : Nat)
  | afterField
  | afterBracket
  | level (first : Nat)
deriving DecidableEq, Repr

/-- The part of a text between two bytes. -/
def part? (text : List Char) (first last : Nat) : Option (List Char) := do
  let (_, rest) ← Text.splitAtByte? first text
  let (found, _) ← Text.splitAtByte? (last - first) rest
  return found

/-- Read one character, which starts at a byte. -/
def read? (text : List Char) (directive : Directive) (position : Nat) (mark : Char) :
    Stage -> Option (Directive × Stage)
  | .start =>
    if mark = '[' then some (directive, .span (position + 1))
    else if canStart mark then some (directive, .levelOrScope)
    else none
  | .levelOrScope =>
    if mark = '=' || mark = '[' then do
      let scope ← part? text 0 position
      let next := if mark = '=' then Stage.level else Stage.span
      return ({ directive with scope := some (String.ofList scope) },
        next (position + 1))
    else some (directive, .levelOrScope)
  | .span first =>
    if mark = ']' then do
      let name ← part? text first position
      return ({ directive with span := some (String.ofList name) }, .afterBracket)
    else if mark = '\x7b' then do
      let name ← part? text first position
      let span := if name.isEmpty then none else some (String.ofList name)
      return ({ directive with span := span }, .field (position + 1))
    else some (directive, .span first)
  | .field first =>
    if mark = '\x7d' then do
      let found ← part? text first position
      if found.isEmpty then none
      else do
        let condition ← FieldCondition.parse? found
        return ({ directive with field := some condition }, .afterField)
    else some (directive, .field first)
  | .afterField => if mark = ']' then some (directive, .afterBracket) else none
  | .afterBracket =>
    if mark = '=' then some (directive, .level (position + 1)) else none
  | .level first => some (directive, .level first)

/-- Read characters from a byte on. -/
def readAll? (text : List Char) (directive : Directive) (stage : Stage)
    (position : Nat) : List Char -> Option (Directive × Stage)
  | [] => some (directive, stage)
  | mark :: rest => do
    let (next, stage) ← read? text directive position mark stage
    readAll? text next stage (position + mark.utf8Size) rest

/-- Complete a directive at the end of its text.  A text without marks is a
level if it can be. -/
def complete? (text : List Char) (directive : Directive) :
    Stage -> Option Directive
  | .levelOrScope =>
    match level? text with
    | some level => some { directive with level := level }
    | none => some { directive with scope := some (String.ofList text) }
  | .level first => do
    let (_, found) ← Text.splitAtByte? first text
    if found.isEmpty then some directive
    else (level? found).map fun level => { directive with level := level }
  | .afterBracket => some directive
  | _ => none

/-- Read a directive. -/
def parse? (text : String) : Option Directive := do
  let characters := text.toList
  let (directive, stage) ←
    readAll? characters { level := everything } .start 0
      (Text.trim Text.isBlank characters)
  complete? characters directive stage

end Directive
end Command
end FileRoutes
