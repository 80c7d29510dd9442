import FileRoutes.Text.Digit
import FileRoutes.Toml.Reader
import FileRoutes.Toml.Item

/-!
# Numbers, dates and truth values

Integers are written in four bases and have 64 bits, digits may be grouped by
single underscores, and dates and times are checked against the calendar.
-/

namespace FileRoutes
namespace Toml

open Reader
open Text (isDigit isHexDigit numberOf)

/-- Whether a character is an octal digit. -/
def isOctalDigit (character : Char) : Bool :=
  '0' ≤ character && character ≤ '7'

/-- Whether a character is a binary digit. -/
def isBinaryDigit (character : Char) : Bool :=
  character == '0' || character == '1'

/-- Digits with single underscores between them; the underscores are
dropped. -/
def grouped (test : Char -> Bool) : Reader (List Char) := do
  let first ← satisfying test
  let others ← many (satisfying test <|> (character '_' *> satisfying test))
  return first :: others

/-- An optional sign; true stands for minus. -/
def sign : Reader Bool := do
  let found ← optional (character '+' <|> character '-')
  return found == some '-'

/-- Decimal digits without a leading zero, or a lone zero. -/
def plainDigits : Reader (List Char) :=
  (ahead (satisfying fun digit => isDigit digit && digit != '0') *>
    grouped isDigit) <|>
  (do
    let digit ← satisfying isDigit
    return [digit])

/-- Whether an integer fits into 64 bits with a sign. -/
def fitsInteger (number : Int) : Bool :=
  -Int.pow 2 63 ≤ number && number < Int.pow 2 63

/-- An integer in the base announced by a mark. -/
def basedInteger (mark : String) (base : Nat) (test : Char -> Bool) :
    Reader Item :=
  verified (literal mark *> grouped test) fun digits =>
    let number : Int := numberOf base digits
    if fitsInteger number then some (.integer number) else none

/-- A decimal integer. -/
def decimalInteger : Reader Item :=
  verified
    (do
      let negative ← sign
      let digits ← plainDigits
      return (negative, digits))
    fun (negative, digits) =>
      let magnitude : Int := numberOf 10 digits
      let number := if negative then -magnitude else magnitude
      if fitsInteger number then some (.integer number) else none

/-- An integer in any base. -/
def integer : Reader Item :=
  basedInteger "0x" 16 isHexDigit <|> basedInteger "0o" 8 isOctalDigit <|>
    basedInteger "0b" 2 isBinaryDigit <|> decimalInteger

/-- The exponent part of a floating point number. -/
def exponent : Reader Int := do
  let _ ← satisfying fun mark => mark == 'e' || mark == 'E'
  let negative ← sign
  let digits ← grouped isDigit
  let magnitude : Int := numberOf 10 digits
  return if negative then -magnitude else magnitude

/-- The digits after the point of a floating point number. -/
def fraction : Reader (List Char) :=
  character '.' *> grouped isDigit

/-- Digits after the point and an exponent, at least one of them. -/
def fractionAndExponent : Reader (List Char × Int) :=
  (do
    let power ← exponent
    return ([], power)) <|>
  (do
    let digits ← fraction
    let power ← optional exponent
    return (digits, power.getD 0))

/-- A floating point number in digits.  Positive numbers above the range are
refused. -/
def digitFloat : Reader Item :=
  verified
    (do
      let negative ← sign
      let whole ← plainDigits
      let (digits, power) ← fractionAndExponent
      return (negative, whole ++ digits, power - digits.length))
    fun (negative, digits, scale) =>
      match Decimal.Binary.ofDecimal negative (numberOf 10 digits) scale with
      | .infinite false => none
      | number => some (.float number)

/-- Infinity or not-a-number, with an optional sign. -/
def namedFloat : Reader Item := do
  let negative ← sign
  (do
    literal "inf"
    return .float (.infinite negative)) <|>
  (do
    literal "nan"
    return .float .notANumber)

/-- A floating point number. -/
def float : Reader Item :=
  digitFloat <|> namedFloat

/-- A number of a fixed count of digits within bounds. -/
def boundedNumber (count least greatest : Nat) : Reader Nat :=
  verified (exactly count isDigit) fun digits =>
    let number := numberOf 10 digits
    if least ≤ number && number ≤ greatest then some number else none

/-- Whether a year has a leap day. -/
def isLeapYear (year : Nat) : Bool :=
  year % 4 == 0 && (year % 100 != 0 || year % 400 == 0)

/-- The number of days in a month. -/
def daysInMonth (year month : Nat) : Nat :=
  if month = 2 then
    if isLeapYear year then 29 else 28
  else if month = 4 || month = 6 || month = 9 || month = 11 then 30
  else 31

/-- A date of the calendar. -/
def date : Reader Unit :=
  verified
    (do
      let year ← boundedNumber 4 0 9999
      let _ ← character '-'
      let month ← boundedNumber 2 1 12
      let _ ← character '-'
      let day ← boundedNumber 2 1 31
      return (year, month, day))
    fun (year, month, day) =>
      if day ≤ daysInMonth year month then some () else none

/-- A time of the day, with an optional fraction of a second. -/
def time : Reader Unit := do
  let _ ← boundedNumber 2 0 23
  let _ ← character ':'
  let _ ← boundedNumber 2 0 59
  let _ ← character ':'
  let _ ← boundedNumber 2 0 60
  let _ ← optional (character '.' *> oneOrMore isDigit)
  return ()

/-- The distance of a time from universal time. -/
def offset : Reader Unit :=
  (do
    let _ ← satisfying fun mark => mark == 'Z' || mark == 'z'
    return ()) <|>
  (do
    let _ ← satisfying fun mark => mark == '+' || mark == '-'
    let _ ← boundedNumber 2 0 23
    let _ ← character ':'
    let _ ← boundedNumber 2 0 59
    return ())

/-- A date, a time, or both with an optional offset. -/
def datetime : Reader Item :=
  (do
    date
    let _ ← optional (do
      let _ ← satisfying fun mark => mark == 'T' || mark == 't' || mark == ' '
      time
      let _ ← optional offset
      return ())
    return .datetime) <|>
  (do
    time
    return .datetime)

/-- A truth value. -/
def boolean : Reader Item :=
  (do
    literal "true"
    return .boolean true) <|>
  (do
    literal "false"
    return .boolean false)

/-- A scalar that is not a text. -/
def scalar : Reader Item :=
  datetime <|> float <|> integer <|> boolean

end Toml
end FileRoutes
