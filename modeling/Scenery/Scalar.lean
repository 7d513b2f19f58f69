/-!
# Numbers of a scene

Scenes are computed with machine numbers of 32 bits.  Few of the laws of
arithmetic hold of them, so every definition that computes takes the number type
as a parameter.  `Scalar` lists what such a type provides, and `Angular` what is
needed besides to turn angles into directions.  The program runs on `Float32`.
A law that holds of exact numbers is stated over any type that has it.

The order of the operations is part of every definition, since regrouping a sum
of machine numbers changes it.

Two things are particular to machine numbers.

* There may be values that are no numbers.  `Scalar.lesser` and
  `Scalar.greater` pass over such a value and give the other one.  Comparisons
  with one are false.
* There are infinities.  `Scalar.infinity` is what a bounding box starts from.
-/

namespace Scenery

/-- A type of numbers to compute a scene with. -/
class Scalar (α : Type) extends Zero α, One α, Add α, Sub α, Neg α, Mul α, Div α, LT α, LE α where
  /-- Whether one number is less than another. -/
  decLt : DecidableRel (α := α) (· < ·)
  /-- Whether one number is at most another. -/
  decLe : DecidableRel (α := α) (· ≤ ·)
  /-- The number nearest to a count. -/
  ofCount : Nat → α
  /-- The lesser of two numbers. -/
  lesser : α → α → α
  /-- The greater of two numbers. -/
  greater : α → α → α
  /-- The distance from zero. -/
  abs : α → α
  /-- The square root. -/
  sqrt : α → α
  /-- Whether a value is a number and not infinite. -/
  isFinite : α → Bool
  /-- A value above all numbers. -/
  infinity : α
  /-- The distance from one to the next machine number above it. -/
  epsilon : α

namespace Scalar

variable {α : Type} [Scalar α]

instance (a b : α) : Decidable (a < b) := decLt a b

instance (a b : α) : Decidable (a ≤ b) := decLe a b

/-- The number two. -/
def two : α := 1 + 1

/-- The number one half. -/
def half : α := 1 / two

/-- Whether a number is zero, of either sign. -/
def isZero (x : α) : Bool := decide (x ≤ 0) && decide (0 ≤ x)

/-- The number of an interval that is nearest to another number.  What is no
number stays as it is. -/
def clamp (low high x : α) : α := if x < low then low else if high < x then high else x

end Scalar

/-- A type of numbers with what angles need. -/
class Angular (α : Type) extends Scalar α where
  /-- The sine of an angle in radians. -/
  sin : α → α
  /-- The cosine of an angle in radians. -/
  cos : α → α
  /-- Half a turn in radians. -/
  halfTurn : α
  /-- An angle in degrees, in radians. -/
  toRadians : α → α

/-- A full turn in radians. -/
def Angular.fullTurn {α : Type} [Angular α] : α := Angular.halfTurn + Angular.halfTurn

/-- Machine numbers of 32 bits. -/
instance : Scalar Float32 where
  zero := 0
  one := 1
  decLt := inferInstance
  decLe := inferInstance
  ofCount n := (UInt64.ofNat n).toFloat32
  lesser a b := if a.isNaN then b else if b < a then b else a
  greater a b := if a.isNaN then b else if a < b then b else a
  abs := Float32.abs
  sqrt := Float32.sqrt
  isFinite := Float32.isFinite
  infinity := Float32.ofBits 0x7f800000
  epsilon := Float32.ofBits 0x34000000

/-- Machine numbers of 32 bits.  A degree is the machine number nearest to one
in radians. -/
instance : Angular Float32 where
  sin := Float32.sin
  cos := Float32.cos
  halfTurn := Float32.ofBits 0x40490fdb
  toRadians x := x * Float32.ofBits 0x3c8efa35

end Scenery
