import FileRoutes.Data.Value
import FileRoutes.Text.Quoted

/-!
# Indented data values

Data values are written one element or field a line, two blanks deeper than
the bracket that opens them.  Empty lists and objects stay on one line.
-/

namespace FileRoutes
namespace Value

/-- How one character of a text is written between double quotes. -/
def escapeCharacter (character : Char) : List Char :=
  if character = '"' then ['\\', '"']
  else if character = '\\' then ['\\', '\\']
  else if character = '\x08' then ['\\', 'b']
  else if character = '\x0c' then ['\\', 'f']
  else if character = '\n' then ['\\', 'n']
  else if character = '\r' then ['\\', 'r']
  else if character = '\t' then ['\\', 't']
  else if character.toNat < 0x20 then
    ['\\', 'u', '0', '0'] ++ (if character.toNat < 0x10 then ['0'] else []) ++
      Text.hexadecimal character.toNat
  else [character]

/-- A text between double quotes, as data values hold it. -/
def escapedText (content : String) : String :=
  String.ofList ('"' :: (content.toList.flatMap escapeCharacter ++ ['"']))

/-- A line break and the indentation of the next line. -/
def lineBreak (depth : Nat) : String :=
  "\n" ++ String.join (List.replicate depth "  ")

mutual

/-- Write a value whose opening bracket stands at the given depth. -/
def indented (depth : Nat) : Value -> String
  | null => "null"
  | boolean value => if value then "true" else "false"
  | integer value => toString value
  | text value => escapedText value
  | list [] => "[]"
  | list (first :: rest) =>
    "[" ++ indentedElements (depth + 1) (first :: rest) ++ lineBreak depth ++ "]"
  | object [] => "\x7b\x7d"
  | object (first :: rest) =>
    "\x7b" ++ indentedFields (depth + 1) (first :: rest) ++ lineBreak depth ++
      "\x7d"

/-- Write the elements of a list, each on its own line. -/
def indentedElements (depth : Nat) : List Value -> String
  | [] => ""
  | [last] => lineBreak depth ++ indented depth last
  | element :: next :: rest =>
    lineBreak depth ++ indented depth element ++ "," ++
      indentedElements depth (next :: rest)

/-- Write the fields of an object, each on its own line. -/
def indentedFields (depth : Nat) : List (String × Value) -> String
  | [] => ""
  | [(name, value)] =>
    lineBreak depth ++ escapedText name ++ ": " ++ indented depth value
  | (name, value) :: next :: rest =>
    lineBreak depth ++ escapedText name ++ ": " ++ indented depth value ++ "," ++
      indentedFields depth (next :: rest)

end

/-- Write a value over as many lines as it needs. -/
def pretty (value : Value) : String :=
  indented 0 value

end Value
end FileRoutes
