import Scenery.Decimal.Binary

/-!
# Numbers with two places

`fixed` rounds the exact value of a machine number to a number of decimal
places.  A value halfway between two neighbours goes to the even one.  The sign
of a negative number is written also when all its digits are zero.
-/

namespace Scenery.Decimal

/-- The quotient of two naturals, rounded to the nearest one, halves to even. -/
def roundDiv (num den : Nat) : Nat :=
  let q := num / den
  let r := num % den
  if 2 * r < den then q
  else if den < 2 * r then q + 1
  else if q % 2 = 0 then q else q + 1

/-- A natural number of units of the last place, written with that many places. -/
def withPlaces (places n : Nat) : String :=
  let digits := Nat.toDigits 10 n
  let padded := List.replicate (places + 1 - digits.length) '0' ++ digits
  let cut := padded.length - places
  String.ofList (padded.take cut) ++ "." ++ String.ofList (padded.drop cut)

/-- The text of a decoded number with a number of places. -/
def Reading.fixed (places : Nat) : Reading → String
  | .nan => "NaN"
  | .infinite negative => if negative then "-inf" else "inf"
  | .finite negative x =>
      (if negative then "-" else "") ++
        withPlaces places (roundDiv (x.numerator * pow10 places) x.denominator)

example : (Reading.ofBits 23 8 0x3e000000).fixed 2 = "0.12" := by decide +kernel
example : (Reading.ofBits 23 8 0xba83126f).fixed 2 = "-0.00" := by decide +kernel

end Scenery.Decimal
