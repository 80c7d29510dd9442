import FileRoutes.Text.Unprintable
import FileRoutes.Text.GraphemeExtend

/-!
# Quoted text

Texts inside messages stand between double quotes.  Quotes, backslashes and
the common control characters have short escapes, characters that would not
show have their code point in hexadecimal, and all others stand for
themselves.
-/

namespace FileRoutes
namespace Text

/-- The lower-case hexadecimal digits of a number, without padding. -/
def hexadecimal (number : Nat) : List Char :=
  Nat.toDigits 16 number

/-- A character written by its code point. -/
def codePointEscape (character : Char) : List Char :=
  ['\\', 'u', '\x7b'] ++ hexadecimal character.toNat ++ ['\x7d']

/-- How one character is written inside double quotes. -/
def escapeCharacter (character : Char) : List Char :=
  if character = '\x00' then ['\\', '0']
  else if character = '\t' then ['\\', 't']
  else if character = '\n' then ['\\', 'n']
  else if character = '\r' then ['\\', 'r']
  else if character = '"' then ['\\', '"']
  else if character = '\\' then ['\\', '\\']
  else if isGraphemeExtend character || isUnprintable character then
    codePointEscape character
  else [character]

/-- A text between double quotes, as messages show it. -/
def quoted (text : String) : String :=
  String.ofList ('"' :: (text.toList.flatMap escapeCharacter ++ ['"']))

/-- An optional text, named with its presence. -/
def quotedOption : Option String -> String
  | none => "None"
  | some text => "Some(" ++ quoted text ++ ")"

end Text
end FileRoutes
