/-!
# Binary floating point numbers

A finite binary64 number is a mantissa below `2^53` times a power of two not
below `2^-1074`.  Reading a decimal number picks the nearest one; of two that
are equally near, the one with the even mantissa.
-/

namespace FileRoutes
namespace Decimal

/-- A binary64 number; a finite one is `mantissa * 2 ^ exponent`. -/
inductive Binary
  | finite (negative : Bool) (mantissa : Nat) (exponent : Int)
  | infinite (negative : Bool)
  | notANumber
deriving DecidableEq, Repr

/-- The quotient rounded to the nearest integer, a tie to the even one. -/
def roundQuotient (numerator denominator : Nat) : Nat :=
  let quotient := numerator / denominator
  let twice := 2 * (numerator % denominator)
  if twice < denominator then quotient
  else if denominator < twice then quotient + 1
  else quotient + quotient % 2

/-- A power with an integer exponent, as numerator and denominator. -/
def powerFraction (base : Nat) (exponent : Int) : Nat × Nat :=
  if 0 ≤ exponent then
    (Nat.pow base exponent.toNat, 1)
  else
    (1, Nat.pow base (-exponent).toNat)

/-- The exponent of the greatest power of two that is not above a positive
fraction. -/
def binaryOrder (numerator denominator : Nat) : Int :=
  let estimate : Int := (numerator.log2 : Int) - denominator.log2
  let power := powerFraction 2 estimate
  if denominator * power.1 ≤ numerator * power.2 then estimate else estimate - 1

namespace Binary

/-- The binary number nearest to a positive fraction. -/
def ofFraction (negative : Bool) (numerator denominator : Nat) : Binary :=
  let exponent := max (binaryOrder numerator denominator - 52) (-1074)
  let unit := powerFraction 2 exponent
  let mantissa := roundQuotient (numerator * unit.2) (denominator * unit.1)
  let normalized : Nat × Int :=
    if mantissa = Nat.pow 2 53 then (Nat.pow 2 52, exponent + 1)
    else (mantissa, exponent)
  if 971 < normalized.2 then
    infinite negative
  else
    finite negative normalized.1 normalized.2

/-- The binary number nearest to `digits * 10 ^ scale`.  Numbers far outside
the range are settled by their order alone. -/
def ofDecimal (negative : Bool) (digits : Nat) (scale : Int) : Binary :=
  let order : Int := (Nat.toDigits 10 digits).length + scale
  if digits = 0 ∨ order < -330 then
    finite negative 0 (-1074)
  else if 330 < order then
    infinite negative
  else
    let power := powerFraction 10 scale
    ofFraction negative (digits * power.1) power.2

end Binary
end Decimal
end FileRoutes
