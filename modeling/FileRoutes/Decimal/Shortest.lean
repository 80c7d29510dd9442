import FileRoutes.Decimal.Binary

/-!
# Shortest decimal text

A binary number is written with the fewest decimal digits that read back as
the same number, and of those the digits nearest to it.  The text is always
positional, with at least one digit after the point.
-/

namespace FileRoutes
namespace Decimal

/-- The decimal grid with steps of `10 ^ scale`, seen from the number
`mantissa * 2 ^ exponent`: the step and a quarter of the last binary place,
over one denominator. -/
structure Grid where
  step : Nat
  quarter : Nat

/-- The grid with the given scale beside a binary exponent. -/
def Grid.of (exponent scale : Int) : Grid :=
  let binary := powerFraction 2 (exponent - 2)
  let decimal := powerFraction 10 scale
  { step := decimal.1 * binary.2
    quarter := binary.1 * decimal.2 }

/-- Whether a point of the grid reads back as the binary number. -/
def Grid.readsBack (grid : Grid) (mantissa : Nat) (exponent : Int)
    (point : Nat) : Bool :=
  let below := if mantissa = Nat.pow 2 52 && -1074 < exponent then 1 else 2
  let low := (4 * mantissa - below) * grid.quarter
  let high := (4 * mantissa + 2) * grid.quarter
  let position := point * grid.step
  if mantissa % 2 = 0 then
    low ≤ position && position ≤ high
  else
    low < position && position < high

/-- The point of a grid nearest to a binary number among its two neighbours
that read back as it. -/
def Grid.nearest? (grid : Grid) (mantissa : Nat) (exponent : Int) :
    Option Nat :=
  let value := 4 * mantissa * grid.quarter
  let lower := value / grid.step
  let upper := lower + 1
  let useLower := grid.readsBack mantissa exponent lower
  let useUpper := grid.readsBack mantissa exponent upper
  if useLower && useUpper then
    if 2 * value < (lower + upper) * grid.step then some lower else some upper
  else if useLower then some lower
  else if useUpper then some upper
  else none

/-- The shortest decimal form of `mantissa * 2 ^ exponent`: digits and
scale, from the coarsest grid that has a point reading back as it. -/
def shortest (mantissa : Nat) (exponent : Int) : Nat × Int :=
  let found := (List.range 680).findSome? fun (index : Nat) =>
    let scale : Int := 310 - (index : Int)
    ((Grid.of exponent scale).nearest? mantissa exponent).map fun digits =>
      (digits, scale)
  found.getD (0, 0)

/-- Write `digits * 10 ^ scale` in positional notation, with at least one
digit after the point. -/
def positional (digits : Nat) (scale : Int) : List Char :=
  let written := Nat.toDigits 10 digits
  if 0 ≤ scale then
    written ++ List.replicate scale.toNat '0' ++ ['.', '0']
  else
    let places := (-scale).toNat
    let padded := List.replicate (places + 1 - written.length) '0' ++ written
    padded.take (padded.length - places) ++ ['.'] ++
      padded.drop (padded.length - places)

namespace Binary

/-- The sign of a number as text. -/
def signText (negative : Bool) : String :=
  if negative then "-" else ""

/-- The shortest text of a number. -/
def toText : Binary -> String
  | notANumber => "NaN"
  | infinite negative => signText negative ++ "inf"
  | finite negative mantissa exponent =>
    if mantissa = 0 then
      signText negative ++ "0.0"
    else
      let form := shortest mantissa exponent
      signText negative ++ String.ofList (positional form.1 form.2)

end Binary
end Decimal
end FileRoutes
