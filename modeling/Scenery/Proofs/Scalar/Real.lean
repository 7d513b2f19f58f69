import Mathlib.Analysis.SpecialFunctions.Trigonometric.Angle
import Scenery.Proofs.Scalar.Field

/-!
# Real numbers

Among real numbers angles have their sines and cosines, and half a turn is half a turn.  So
what is meant to lie on a circle lies there exactly.  As among rational numbers there is no
infinity, and zero stands in for it.
-/

namespace Scenery

noncomputable instance : Scalar ℝ where
  decLt := inferInstance
  decLe := inferInstance
  ofCount n := n
  lesser := min
  greater := max
  abs a := |a|
  sqrt := Real.sqrt
  isFinite _ := true
  infinity := 0
  epsilon := 1 / (2 ^ 23 : Nat)

/-- A degree is the 180th part of half a turn. -/
noncomputable instance : Angular ℝ where
  sin := Real.sin
  cos := Real.cos
  halfTurn := Real.pi
  toRadians degrees := degrees * (Real.pi / (180 : Nat))

namespace RealAngle

theorem toRadians_eq (degrees : ℝ) : Angular.toRadians degrees = degrees * (Real.pi / 180) := rfl

theorem toRadians_add (d e : ℝ) :
    Angular.toRadians d + Angular.toRadians e = Angular.toRadians (d + e) := by
  simp only [toRadians_eq]
  ring

theorem toRadians_pos {degrees : ℝ} : 0 < Angular.toRadians degrees ↔ 0 < degrees := by
  rw [toRadians_eq]
  exact mul_pos_iff_of_pos_right (div_pos Real.pi_pos (by norm_num))

theorem toRadians_lt_halfTurn {degrees : ℝ} :
    Angular.toRadians degrees < Angular.halfTurn ↔ degrees < 180 := by
  have hhalf : (Angular.halfTurn : ℝ) = 180 * (Real.pi / 180) := by
    change Real.pi = _
    ring
  rw [toRadians_eq, hhalf]
  exact mul_lt_mul_iff_of_pos_right (div_pos Real.pi_pos (by norm_num))

/-- The sine is zero exactly at whole half turns. -/
theorem sin_eq_zero_iff {degrees : ℝ} :
    Angular.sin (Angular.toRadians degrees) = 0 ↔ ∃ k : ℤ, degrees = k * 180 := by
  have hsin : Angular.sin (Angular.toRadians degrees) = Real.sin (degrees * (Real.pi / 180)) := rfl
  have hpi := Real.pi_ne_zero
  rw [hsin, Real.sin_eq_zero_iff]
  refine exists_congr fun k => ?_
  constructor
  · intro h
    field_simp at h
    linarith
  · rintro rfl
    ring

/-- Two angles give one direction exactly if they differ by whole turns. -/
theorem direction_eq_iff {d e : ℝ} :
    Angular.cos (Angular.toRadians d) = Angular.cos (Angular.toRadians e) ∧
        Angular.sin (Angular.toRadians d) = Angular.sin (Angular.toRadians e) ↔
      ∃ k : ℤ, d - e = k * 360 := by
  have hangle : ∀ x y : ℝ, Real.cos x = Real.cos y ∧ Real.sin x = Real.sin y ↔
      (x : Real.Angle) = y := by
    intro x y
    constructor
    · rintro ⟨hcos, hsin⟩
      exact Real.Angle.cos_sin_inj hcos hsin
    · intro h
      rw [← Real.Angle.cos_coe, ← Real.Angle.cos_coe, ← Real.Angle.sin_coe, ← Real.Angle.sin_coe, h]
      exact ⟨rfl, rfl⟩
  have hpi := Real.pi_ne_zero
  refine (hangle (d * (Real.pi / 180)) (e * (Real.pi / 180))).trans ?_
  rw [Real.Angle.angle_eq_iff_two_pi_dvd_sub]
  refine exists_congr fun k => ?_
  constructor
  · intro h
    field_simp at h
    linarith
  · intro h
    calc d * (Real.pi / 180) - e * (Real.pi / 180)
        = (d - e) * (Real.pi / 180) := by ring
      _ = 2 * Real.pi * k := by rw [h]; ring

theorem direction_zero :
    Angular.cos (Angular.toRadians (0 : ℝ)) = 1 ∧ Angular.sin (Angular.toRadians (0 : ℝ)) = 0 := by
  rw [toRadians_eq, zero_mul]
  exact ⟨Real.cos_zero, Real.sin_zero⟩

theorem direction_quarter :
    Angular.cos (Angular.toRadians (90 : ℝ)) = 0 ∧
      Angular.sin (Angular.toRadians (90 : ℝ)) = 1 := by
  have hquarter : Angular.toRadians (90 : ℝ) = Real.pi / 2 := by
    rw [toRadians_eq]
    ring
  rw [hquarter]
  exact ⟨Real.cos_pi_div_two, Real.sin_pi_div_two⟩

/-- The opposite angle has the same cosine and the opposite sine. -/
theorem direction_neg (degrees : ℝ) :
    Angular.cos (Angular.toRadians (-degrees)) = Angular.cos (Angular.toRadians degrees) ∧
      Angular.sin (Angular.toRadians (-degrees)) =
        -Angular.sin (Angular.toRadians degrees) := by
  have hneg : Angular.toRadians (-degrees) = -Angular.toRadians degrees := by
    rw [toRadians_eq, toRadians_eq, neg_mul]
  rw [hneg]
  exact ⟨Real.cos_neg _, Real.sin_neg _⟩

end RealAngle

end Scenery
