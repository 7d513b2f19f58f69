import Scenery.Decimal.Binary

/-!
# The fewest digits that read back

`Binary.shortest` chooses the decimal that a value is written as.  Of all
decimals among the real numbers that round to the value it takes one with the
fewest digits, and of those the nearest.

The search is over grids.  If the value lies below `10 ^ k` and not below
`10 ^ (k - 1)`, the grid of `n` digits has the step `10 ^ (k - n)`.  A grid has
a point among the real numbers in question only if one of the value's two
neighbours on it is such a point, so only the two are tried, for one digit, for
two, and so on.

All comparisons are between natural numbers, multiplied out.

How the digits are laid out is a matter of the format that is written, and
`Style` holds the choices: between which exponents a number is written
positionally, whether a positive exponent carries a sign, and which of two
equally near decimals is taken.
-/

namespace Scenery.Decimal

/-- A decimal number, `digits * 10 ^ exponent`. -/
structure Scaled where
  /-- The digits. -/
  digits : Nat
  /-- The power of ten. -/
  exponent : Int
deriving DecidableEq, Repr

/-- Compare `a * 10 ^ i` with `n * 2 ^ j`. -/
def compareScaled (a : Nat) (i : Int) (n : Nat) (j : Int) : Ordering :=
  compare (a * pow10 i.toNat * pow2 (-j).toNat) (n * pow2 j.toNat * pow10 (-i).toNat)

/-- Whether a decimal is among the real numbers that round to a value.  The two
ends belong to the value exactly when its significand is even. -/
def Binary.readsBack (x : Binary) (d : Scaled) : Bool :=
  let low := if x.narrowBelow then 4 * x.significand - 1 else 4 * x.significand - 2
  let high := 4 * x.significand + 2
  let even := x.significand % 2 == 0
  let atLow := compareScaled d.digits d.exponent low (x.exponent - 2)
  let atHigh := compareScaled d.digits d.exponent high (x.exponent - 2)
  (atLow == .gt || (even && atLow == .eq)) && (atHigh == .lt || (even && atHigh == .eq))

/-- Which of two equally near decimals is taken. -/
inductive Tie where
  /-- The larger one. -/
  | up
  /-- The one whose last digit is even. -/
  | even
deriving DecidableEq, Repr

/-- The least `k` such that a value lies below `10 ^ k`. -/
def Binary.scale (x : Binary) : Int :=
  let guess : Int := (Nat.toDigits 10 x.numerator).length - (Nat.toDigits 10 x.denominator).length
  if compareScaled 1 guess x.significand x.exponent == .gt then guess else guess + 1

/-- The best decimal on the grid of step `10 ^ exponent`, if one reads back. -/
def Binary.onGrid? (x : Binary) (tie : Tie) (exponent : Int) : Option Scaled :=
  let below := x.numerator * pow10 (-exponent).toNat / (x.denominator * pow10 exponent.toNat)
  let lower : Scaled := ⟨below, exponent⟩
  let upper : Scaled := ⟨below + 1, exponent⟩
  match x.readsBack lower, x.readsBack upper with
  | false, false => none
  | true, false => some lower
  | false, true => some upper
  | true, true =>
      match compareScaled (2 * below + 1) exponent (2 * x.significand) x.exponent with
      | .lt => some upper
      | .gt => some lower
      | .eq =>
          match tie with
          | .up => some upper
          | .even => some (if below % 2 = 0 then lower else upper)

/-- Try the grids of `first` digits and more, `count` of them. -/
def Binary.search (x : Binary) (tie : Tie) (k : Int) (first : Nat) : Nat → Option Scaled
  | 0 => none
  | count + 1 =>
      match x.onGrid? tie (k - first) with
      | some d => some d
      | none => x.search tie k (first + 1) count

/-- Move trailing zeros of the digits into the exponent, `count` at most. -/
def Scaled.strip (d : Scaled) : Nat → Scaled
  | 0 => d
  | count + 1 =>
      if d.digits != 0 && d.digits % 10 == 0 then
        Scaled.strip ⟨d.digits / 10, d.exponent + 1⟩ count
      else d

/-- The decimal a positive value is written as.  Seventeen digits always
suffice; without them the exact value is written. -/
def Binary.shortest (x : Binary) (tie : Tie) : Scaled :=
  match x.search tie x.scale 1 17 with
  | some d => d.strip 20
  | none =>
      ⟨x.significand * pow2 x.exponent.toNat * Nat.pow 5 (-x.exponent).toNat, min x.exponent 0⟩

/-! ## Layout -/

/-- How a format lays out the digits. -/
structure Style where
  /-- The least exponent of the leading digit that is written positionally. -/
  lowest : Int
  /-- The greatest exponent of the leading digit that is written positionally. -/
  highest : Int
  /-- Whether a positive exponent carries a plus sign. -/
  plus : Bool
  /-- Which of two equally near decimals is taken. -/
  tie : Tie

/-- Lay out a positive decimal.  A whole number keeps one zero after its point,
and an exponent's digits have none. -/
def Style.layout (style : Style) (d : Scaled) : String :=
  let digits := Nat.toDigits 10 d.digits
  let lead : Int := d.exponent + digits.length - 1
  if style.lowest ≤ lead ∧ lead ≤ style.highest then
    if 0 ≤ d.exponent then
      String.ofList (digits ++ List.replicate d.exponent.toNat '0') ++ ".0"
    else if 0 ≤ lead then
      String.ofList (digits.take (lead.toNat + 1)) ++ "." ++
        String.ofList (digits.drop (lead.toNat + 1))
    else "0." ++ String.ofList (List.replicate ((-lead).toNat - 1) '0' ++ digits)
  else
    let fraction := String.ofList (digits.drop 1)
    String.ofList (digits.take 1) ++ (if fraction = "" then "" else "." ++ fraction) ++ "e" ++
      (if lead < 0 then "-" else if style.plus then "+" else "") ++ toString lead.natAbs

/-- The text of a decoded number. -/
def Reading.text (style : Style) : Reading → String
  | .nan => "NaN"
  | .infinite negative => if negative then "-inf" else "inf"
  | .finite negative x =>
      (if negative then "-" else "") ++
        (if x.significand = 0 then "0.0" else style.layout (x.shortest style.tie))

end Scenery.Decimal
