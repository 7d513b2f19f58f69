import Mathlib.Tactic.Common
import Scenery.Scalar

/-!
# Comparing machine numbers

Machine numbers are in no order, since nothing compares with a value that is no number,
that value included.  But "less" and "at most" go together as in an order: one number is
less than another if it is at most the other and the other is not at most it.  That is a
law of its own, `Std.LawfulOrderLT`, and all that a search by comparisons needs.

Both comparisons are read off one function, which gives nothing if either side is no number.
The law holds since that function gives the same in both directions, turned around
(`MachineNumber.compare_comm`).
-/

namespace Scenery.MachineNumber

open Float.Model

theorem compare_comm (x y : UnpackedFloat) : y.compare x = (x.compare y).map Ordering.swap := by
  rcases x with ⟨_ | _⟩ | _ | ⟨_ | _⟩ | ⟨_ | _, m, e, hm⟩ <;>
    rcases y with ⟨_ | _⟩ | _ | ⟨_ | _⟩ | ⟨_ | _, m', e', hm'⟩ <;> try rfl
  -- two numbers of one sign are compared by exponent and then by mantissa
  case finite.negative.finite.negative =>
    dsimp only [UnpackedFloat.compare, Option.map_some]
    rw [Ordering.swap_swap, Ordering.swap_then, ← Std.OrientedOrd.eq_swap,
      ← Std.OrientedOrd.eq_swap]
  case finite.positive.finite.positive =>
    dsimp only [UnpackedFloat.compare, Option.map_some]
    rw [Ordering.swap_then, Std.OrientedOrd.eq_swap (a := e'), Std.OrientedOrd.eq_swap (a := m')]

theorem lt_iff_compare {a b : Float32} :
    a < b ↔ a.toModel.unpack.compare b.toModel.unpack = some .lt := by
  have hlt : a < b ↔ decide (a.toModel < b.toModel) = true := Iff.rfl
  have hmodel : a.toModel < b.toModel ↔ a.toModel.unpack.lt b.toModel.unpack = true := Iff.rfl
  rw [hlt, decide_eq_true_eq, hmodel, UnpackedFloat.lt, beq_iff_eq]

theorem le_iff_compare {a b : Float32} :
    a ≤ b ↔ ∃ o, a.toModel.unpack.compare b.toModel.unpack = some o ∧ o.isLE = true := by
  have hle : a ≤ b ↔ decide (a.toModel ≤ b.toModel) = true := Iff.rfl
  have hmodel : a.toModel ≤ b.toModel ↔ a.toModel.unpack.le b.toModel.unpack = true := Iff.rfl
  rw [hle, decide_eq_true_eq, hmodel, UnpackedFloat.le, Option.any_eq_true]

instance lawfulOrderLT : Std.LawfulOrderLT Float32 where
  lt_iff a b := by
    rw [lt_iff_compare, le_iff_compare, le_iff_compare, compare_comm a.toModel.unpack]
    cases a.toModel.unpack.compare b.toModel.unpack with
    | none => simp
    | some o => cases o <;> simp

end Scenery.MachineNumber
