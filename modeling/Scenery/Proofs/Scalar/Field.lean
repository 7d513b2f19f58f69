import Mathlib.Algebra.Field.Rat
import Mathlib.Algebra.Order.Field.Basic
import Mathlib.Algebra.Order.Ring.Rat
import Mathlib.Data.Rat.Sqrt
import Mathlib.Order.Interval.Set.Defs
import Mathlib.Tactic.Positivity
import Scenery.Proofs.Scalar

/-!
# Numbers of an ordered field

Where a computation only adds, multiplies, divides and compares, what it is meant to give is
what it gives in an ordered field.  `FieldScalar` asks for one, with the distance from zero
and `Scalar.epsilon` what they should be.  It asks nothing of the roots, of the infinity and
of the other things `Scalar` lists, so nothing that depends on these can be shown over it.

Two classes ask for more.  In `OrderedFieldScalar` counts are counts, and the lesser and the
greater of two numbers are what they say.  `FieldAngular` has sines and cosines besides, of
which it asks nothing.

The rational numbers are such a field.  Unlike `Exact`, it has no infinities.
-/

namespace Scenery

/-- Numbers of an ordered field. -/
class FieldScalar (α : Type) extends Scalar α, Field α, LinearOrder α, IsStrictOrderedRing α where
  abs_eq : ∀ a : α, Scalar.abs a = |a|
  epsilon_eq : (Scalar.epsilon : α) = 1 / 2 ^ 23

/-- Numbers of an ordered field, with the counts and the comparisons of one. -/
class OrderedFieldScalar (α : Type) extends FieldScalar α where
  ofCount_eq : ∀ n : Nat, (Scalar.ofCount n : α) = n
  lesser_eq_min : ∀ a b : α, Scalar.lesser a b = min a b
  greater_eq_max : ∀ a b : α, Scalar.greater a b = max a b

/-- Numbers of an ordered field, with what is needed to turn angles into directions. -/
class FieldAngular (α : Type) extends FieldScalar α, Angular α

/-- The rational numbers.  There is no infinity among them, and zero stands in for it. -/
instance : Scalar ℚ where
  decLt := inferInstance
  decLe := inferInstance
  ofCount n := n
  lesser := min
  greater := max
  abs a := |a|
  sqrt := Rat.sqrt
  isFinite _ := true
  infinity := 0
  epsilon := 1 / 2 ^ 23

instance : FieldScalar ℚ :=
  { (inferInstance : Scalar ℚ), (inferInstance : Field ℚ), (inferInstance : LinearOrder ℚ),
    (inferInstance : IsStrictOrderedRing ℚ) with
    abs_eq := fun _ => rfl
    epsilon_eq := rfl }

instance : OrderedFieldScalar ℚ where
  ofCount_eq _ := rfl
  lesser_eq_min _ _ := rfl
  greater_eq_max _ _ := rfl

instance [Exact.Approximation] : Angular ℚ where
  sin := Exact.Approximation.sin
  cos := Exact.Approximation.cos
  halfTurn := Exact.Approximation.halfTurn
  toRadians degrees := degrees * (Exact.Approximation.halfTurn / 180)

instance [Exact.Approximation] : FieldAngular ℚ :=
  { (inferInstance : FieldScalar ℚ), (inferInstance : Angular ℚ) with }

namespace FieldScalar

variable {α : Type} [FieldScalar α]

theorem epsilon_pos : 0 < (Scalar.epsilon : α) := by
  rw [epsilon_eq]
  positivity

theorem epsilon_lt_one : (Scalar.epsilon : α) < 1 := by
  rw [epsilon_eq, div_lt_one (by positivity)]
  exact one_lt_pow₀ one_lt_two (by decide)

theorem clamp_mem (t : α) : Scalar.clamp 0 1 t ∈ Set.Icc 0 1 := by
  rw [Scalar.clamp]
  split
  next => exact ⟨le_rfl, zero_le_one⟩
  next hlow =>
    split
    next => exact ⟨zero_le_one, le_rfl⟩
    next hhigh => exact ⟨not_lt.mp hlow, not_lt.mp hhigh⟩

theorem clamp_zero : Scalar.clamp 0 1 (0 : α) = 0 := by simp [Scalar.clamp]

theorem clamp_one : Scalar.clamp 0 1 (1 : α) = 1 := by simp [Scalar.clamp]

end FieldScalar

end Scenery
