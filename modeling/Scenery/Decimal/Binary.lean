/-!
# Finite binary values

A machine number is decoded from its bits, once, into what the decimal texts
are about: a sign and a natural number times a power of two.  Two formats
occur, with 32 and with 64 bits.  They differ in how many bits hold the fraction
and how many the exponent, so `Reading.ofBits` takes both counts.

A value stands for the real numbers that round to it.  They reach halfway to
the neighbours on either side.  Just above a power of two the neighbour below
is half as far away as the one above, which `Binary.narrowBelow` records.
-/

namespace Scenery.Decimal

/-- A finite value without its sign, `significand * 2 ^ exponent`. -/
structure Binary where
  /-- The significand. -/
  significand : Nat
  /-- The power of two. -/
  exponent : Int
  /-- The gap to the value below is half the gap to the value above. -/
  narrowBelow : Bool
deriving DecidableEq, Repr

/-- What a bit pattern stands for. -/
inductive Reading where
  /-- No number. -/
  | nan
  /-- An infinite value. -/
  | infinite (negative : Bool)
  /-- A finite value. -/
  | finite (negative : Bool) (value : Binary)
deriving DecidableEq, Repr

/-- A power of two. -/
def pow2 (n : Nat) : Nat := Nat.pow 2 n

/-- A power of ten. -/
def pow10 (n : Nat) : Nat := Nat.pow 10 n

/-- Decode a bit pattern whose lowest bits are the fraction, the next ones the
exponent and the top one the sign. -/
def Reading.ofBits (fractionBits exponentBits : Nat) (bits : Nat) : Reading :=
  let fraction := bits % pow2 fractionBits
  let exponent := bits / pow2 fractionBits % pow2 exponentBits
  let negative := bits / pow2 (fractionBits + exponentBits) % 2 == 1
  let least : Int := 2 - pow2 (exponentBits - 1) - fractionBits
  if exponent + 1 = pow2 exponentBits then
    if fraction = 0 then .infinite negative else .nan
  else if exponent = 0 then .finite negative ⟨fraction, least, false⟩
  else
    .finite negative
      ⟨pow2 fractionBits + fraction, least + exponent - 1, fraction == 0 && decide (1 < exponent)⟩

/-- Decode a number of 32 bits. -/
def Reading.ofFloat32 (x : Float32) : Reading := .ofBits 23 8 x.toBits.toNat

/-- Decode a number of 64 bits. -/
def Reading.ofFloat (x : Float) : Reading := .ofBits 52 11 x.toBits.toNat

/-- The numerator of `significand * 2 ^ exponent` as a fraction. -/
def Binary.numerator (x : Binary) : Nat := x.significand * pow2 x.exponent.toNat

/-- The denominator of `significand * 2 ^ exponent` as a fraction. -/
def Binary.denominator (x : Binary) : Nat := pow2 (-x.exponent).toNat

example : Reading.ofBits 23 8 0x3f800000 = .finite false ⟨pow2 23, -23, true⟩ := by decide
example : Reading.ofBits 23 8 0xff800000 = .infinite true := by decide
example : Reading.ofBits 23 8 1 = .finite false ⟨1, -149, false⟩ := by decide

end Scenery.Decimal
