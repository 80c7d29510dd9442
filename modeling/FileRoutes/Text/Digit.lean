/-!
# Digits and numerals

Digits are those of ASCII.  A numeral writes a number with a point and an
exponent as options, or names an infinity or not-a-number.
-/

namespace FileRoutes
namespace Text

/-- Whether a character is a decimal digit. -/
def isDigit (character : Char) : Bool :=
  '0' ≤ character && character ≤ '9'

/-- Whether a character is a hexadecimal digit. -/
def isHexDigit (character : Char) : Bool :=
  isDigit character || ('a' ≤ character && character ≤ 'f') ||
    ('A' ≤ character && character ≤ 'F')

/-- The value of a digit in any base up to sixteen. -/
def digitValue (character : Char) : Nat :=
  if isDigit character then character.toNat - '0'.toNat
  else if 'a' ≤ character then character.toNat - 'a'.toNat + 10
  else character.toNat - 'A'.toNat + 10

/-- The number that digits write in a base. -/
def numberOf (base : Nat) (digits : List Char) : Nat :=
  digits.foldl (fun number digit => base * number + digitValue digit) 0

/-- A text without the sign at its front, if it has one. -/
def withoutSign : List Char -> List Char
  | '+' :: rest | '-' :: rest => rest
  | text => text

/-- Whether a text is at least one digit and nothing else. -/
def areDigits (text : List Char) : Bool :=
  !text.isEmpty && text.all isDigit

/-- Whether a text is empty or writes an exponent. -/
def isExponent : List Char -> Bool
  | [] => true
  | mark :: rest => (mark == 'e' || mark == 'E') && areDigits (withoutSign rest)

/-- Whether a text writes a number: digits in front of a point or behind it,
and perhaps an exponent. -/
def isPlainNumeral (text : List Char) : Bool :=
  let rest := text.dropWhile isDigit
  match rest with
  | '.' :: decimals =>
    (rest.length < text.length || decimals.head?.any isDigit) &&
      isExponent (decimals.dropWhile isDigit)
  | _ => rest.length < text.length && isExponent rest

/-- The names of infinities and of not-a-number. -/
def numeralNames : List String :=
  ["inf", "infinity", "nan"]

/-- Whether a text is a number or the name of one, after an optional sign. -/
def isNumeral (text : List Char) : Bool :=
  let unsigned := withoutSign text
  isPlainNumeral unsigned ||
    numeralNames.contains (String.ofList (unsigned.map Char.toLower))

end Text
end FileRoutes
