import Mathlib.RingTheory.Polynomial.Bernstein
import Scenery.Proofs.Surface.Hull

/-!
# Patches in the Bernstein form

A patch has a single span in each direction, with all knots before it at zero and all after it
at one.  The support of every basis function that is used then begins at zero or before and
ends at one or after, so all the quotients in the recursion are by one, and what is left of it
is the recursion of the Bernstein polynomials (`coxDeBoor_eq_bernstein`).

All weights are one.  So the sum of the parts is one, the division by it changes nothing, and
a point of the patch is the sum of the control points, each times its two polynomials
(`patch?_bernstein`).
-/

namespace Scenery.Surface

open Polynomial

variable {α : Type} [FieldScalar α]

/-! ## The Bernstein polynomials -/

/-- The value of a Bernstein polynomial. -/
def bernstein (p i : Nat) (x : α) : α := p.choose i * x ^ i * (1 - x) ^ (p - i)

/-- The library's Bernstein polynomials have the values used here. -/
theorem eval_bernsteinPolynomial (p i : Nat) (x : α) :
    (bernsteinPolynomial α p i).eval x = bernstein p i x := by
  simp [bernsteinPolynomial, bernstein]

theorem bernstein_of_lt {p i : Nat} (h : p < i) (x : α) : bernstein p i x = 0 := by
  rw [bernstein, Nat.choose_eq_zero_of_lt h, Nat.cast_zero, zero_mul, zero_mul]

/-- The recursion of the first polynomial of each degree. -/
theorem bernstein_succ_zero (j : Nat) (x : α) :
    bernstein (j + 1) 0 x = (1 - x) * bernstein j 0 x := by
  rw [bernstein, bernstein, Nat.choose_zero_right, Nat.choose_zero_right, Nat.sub_zero,
    Nat.sub_zero, pow_succ]
  ring

/-- The recursion that de Casteljau's scheme runs on. -/
theorem bernstein_succ_succ (j r : Nat) (x : α) :
    bernstein (j + 1) (r + 1) x = x * bernstein j r x + (1 - x) * bernstein j (r + 1) x := by
  rw [bernstein, bernstein, bernstein, Nat.choose_succ_succ', Nat.cast_add, Nat.add_sub_add_right]
  rcases Nat.lt_or_ge j (r + 1) with h | h
  · rw [Nat.choose_eq_zero_of_lt h, Nat.cast_zero]
    ring
  · rw [show j - r = j - (r + 1) + 1 by omega]
    ring

/-- The polynomials of one degree sum to one. -/
theorem sum_bernstein (p : Nat) (x : α) : ∑ i : Fin (p + 1), bernstein p i x = 1 := by
  rw [← Finset.sum_range fun i => bernstein p i x]
  simp only [← eval_bernsteinPolynomial]
  rw [← eval_finsetSum, bernsteinPolynomial.sum, eval_one]

theorem bernstein_nonneg (p i : Nat) {x : α} (hx : x ∈ Set.Icc 0 1) : 0 ≤ bernstein p i x :=
  mul_nonneg (mul_nonneg (Nat.cast_nonneg _) (pow_nonneg hx.1 i))
    (pow_nonneg (sub_nonneg.mpr hx.2) (p - i))

theorem bernstein_at_zero (p i : Nat) : bernstein p i (0 : α) = if i = 0 then 1 else 0 := by
  rw [← eval_bernsteinPolynomial, bernsteinPolynomial.eval_at_0]

theorem bernstein_at_one (p i : Nat) : bernstein p i (1 : α) = if i = p then 1 else 0 := by
  rw [← eval_bernsteinPolynomial, bernsteinPolynomial.eval_at_1]

/-! ## The knots of a single span -/

section Knots

variable {p : Nat}

/-- The first `p + 1` clamped knots are zero. -/
theorem knot_clampedKnots_of_le {i : Nat} (h : i ≤ p) : knot (clampedKnots p : Array α) i = 0 := by
  have hi : i < p + 1 := by omega
  simp [knot, clampedKnots, List.getElem?_append, hi]

/-- The last `p + 1` clamped knots are one. -/
theorem knot_clampedKnots_of_lt {i : Nat} (h : p < i) (h' : i < p + p + 2) :
    knot (clampedKnots p : Array α) i = 1 := by
  have hi : ¬ i < p + 1 := by omega
  have hi' : i - (p + 1) < p + 1 := by omega
  simp [knot, clampedKnots, List.getElem?_append, hi, hi']

theorem eq_zero_or_one_of_mem_clampedKnots {a : α} (h : a ∈ (clampedKnots p : Array α)) :
    a = 0 ∨ a = 1 := by
  rw [clampedKnots, List.mem_toArray, List.mem_append] at h
  exact h.imp List.eq_of_mem_replicate List.eq_of_mem_replicate

/-- Clamped knots are valid for a net with one point more than the degree. -/
theorem validKnots_clampedKnots (p : Nat) : ValidKnots (clampedKnots p : Array α) p p where
  enough := le_rfl
  size := size_clampedKnots p
  ascending := by
    refine List.pairwise_append.mpr ⟨?_, ?_, fun a ha b hb => ?_⟩
    · exact List.pairwise_replicate.mpr (Or.inr le_rfl)
    · exact List.pairwise_replicate.mpr (Or.inr le_rfl)
    · rw [List.eq_of_mem_replicate ha, List.eq_of_mem_replicate hb]
      exact zero_le_one
  first := by
    rw [knot_clampedKnots_of_le le_rfl, knot_clampedKnots_of_lt (by omega) (by omega)]
    exact zero_lt_one
  last := by
    rw [knot_clampedKnots_of_le le_rfl, knot_clampedKnots_of_lt (by omega) (by omega)]
    exact zero_lt_one
  apart := by
    intro a ha b hb hlt
    rcases eq_zero_or_one_of_mem_clampedKnots ha with rfl | rfl <;>
      rcases eq_zero_or_one_of_mem_clampedKnots hb with rfl | rfl
    · exact absurd hlt (lt_irrefl _)
    · rw [sub_zero]
      exact FieldScalar.epsilon_lt_one
    · exact absurd hlt (zero_le_one.not_gt)
    · exact absurd hlt (lt_irrefl _)

/-- The domain of clamped knots is the unit interval, so a parameter is only clamped. -/
theorem toDomain_clampedKnots (t : α) : toDomain (clampedKnots p) p p t = Scalar.clamp 0 1 t := by
  rw [toDomain, knot_clampedKnots_of_le le_rfl, knot_clampedKnots_of_lt (by omega) (by omega),
    sub_zero, mul_one, zero_add]

/-- On the knots of a single span, the basis functions are the Bernstein polynomials. -/
theorem coxDeBoor_eq_bernstein (x : α) {j r i : Nat} (hj : j ≤ p) (hr : r ≤ j)
    (hi : i + j = p + r) :
    coxDeBoor (knot (clampedKnots p)) p x j i = bernstein j r x := by
  induction j generalizing r i with
  | zero =>
      obtain rfl : r = 0 := by omega
      obtain rfl : i = p := by omega
      simp [coxDeBoor, bernstein]
  | succ j ih =>
      have hstart : knot (clampedKnots p) i = (0 : α) := knot_clampedKnots_of_le (by omega)
      have hend : knot (clampedKnots p) (i + j + 2) = (1 : α) :=
        knot_clampedKnots_of_lt (by omega) (by omega)
      rw [coxDeBoor, hstart, hend]
      cases r with
      | zero =>
          -- the function before is none of those that are used
          have hbefore : coxDeBoor (knot (clampedKnots p)) p x j i = 0 :=
            coxDeBoor_eq_zero (by omega)
          have hstart' : knot (clampedKnots p) (i + 1) = (0 : α) :=
            knot_clampedKnots_of_le (by omega)
          rw [hbefore, hstart', ih (r := 0) (by omega) (by omega) (by omega), bernstein_succ_zero]
          ring
      | succ r =>
          have hend' : knot (clampedKnots p) (i + j + 1) = (1 : α) :=
            knot_clampedKnots_of_lt (by omega) (by omega)
          rw [hend', ih (r := r) (by omega) (by omega) (by omega), bernstein_succ_succ]
          by_cases hlast : r + 1 ≤ j
          · have hstart' : knot (clampedKnots p) (i + 1) = (0 : α) :=
              knot_clampedKnots_of_le (by omega)
            rw [hstart', ih (r := r + 1) (by omega) hlast (by omega)]
            ring
          · have hafter : coxDeBoor (knot (clampedKnots p)) p x j (i + 1) = 0 :=
              coxDeBoor_eq_zero (by omega)
            rw [hafter, bernstein_of_lt (Nat.lt_of_not_le hlast)]
            ring

/-- Over clamped knots the shares of the points are the Bernstein polynomials. -/
theorem sharesAt_clampedKnots {t : α} (located : Located (clampedKnots p) p p t p) :
    sharesAt (clampedKnots p) p p t p =
      (List.range' (p - p) (p + 1)).map fun i => bernstein p i (Scalar.clamp 0 1 t) := by
  rw [((validKnots_clampedKnots p).shared located).basis]
  refine List.map_congr_left fun i hi => ?_
  have hi' := List.mem_range'_1.mp hi
  rw [toDomain_clampedKnots, coxDeBoor_eq_bernstein _ le_rfl (by omega) (Nat.add_comm i p)]

end Knots

/-! ## Patches -/

section Patch

variable {p q : Nat}

/-- The control points of a patch, each of weight one. -/
def patchNet (P : Fin (p + 1) → Fin (q + 1) → Vec3 α) : List (List (Vec4 α)) :=
  List.ofFn fun i => List.ofFn fun j => (P i j).weighted 1

/-- A patch is the surface of its net with weights one and clamped knots both ways. -/
theorem patch?_eq (P : Fin (p + 1) → Fin (q + 1) → Vec3 α) :
    patch? p q (List.ofFn fun i => List.ofFn (P i)) =
      ofNet? p q (clampedKnots p) (clampedKnots q) (patchNet P) := by
  have hnet : (List.ofFn fun i => List.ofFn (P i)).map (fun row => row.map (·.weighted 1)) =
      patchNet P := by
    simp only [patchNet, List.map_ofFn, Function.comp_def]
  rw [← hnet, List.ofFn_succ]
  rfl

theorem cell_patchNet (P : Fin (p + 1) → Fin (q + 1) → Vec3 α) (i : Fin (p + 1))
    (j : Fin (q + 1)) : cell (patchNet P) (i, j) = (P i j).weighted 1 := by
  simp only [cell, patchNet, List.getElem?_ofFn, i.isLt, j.isLt, dite_true, Option.bind_some,
    Option.getD_some]

/-- Every net of `(p + 1) × (q + 1)` points makes a patch. -/
theorem madeFrom_patchNet (P : Fin (p + 1) → Fin (q + 1) → Vec3 α) :
    ∃ s, MadeFrom s p q (clampedKnots p) (clampedKnots q) (patchNet P) (q + 1) := by
  have hrows : (patchNet P).length = p + 1 := List.length_ofFn
  refine ⟨_, by omega, fun row hrow => ?_, ?_, ?_, rfl⟩
  · obtain ⟨i, rfl⟩ := List.mem_ofFn.mp hrow
    exact List.length_ofFn
  · rw [size_clampedKnots]
    omega
  · rw [size_clampedKnots]
    omega

/-- The sum of the control points, each times its two Bernstein polynomials. -/
def bernsteinForm (P : Fin (p + 1) → Fin (q + 1) → Vec3 α) (x y : α) : Vec3 α :=
  ∑ i : Fin (p + 1), ∑ j : Fin (q + 1), (bernstein p i x * bernstein q j y) • P i j

theorem sum_places {β : Type} [AddCommMonoid β] (f : Nat × Nat → β) :
    ∑ z ∈ places p p ×ˢ places q q, f z =
      ∑ i : Fin (p + 1), ∑ j : Fin (q + 1), f (i, j) := by
  rw [places, places, Nat.sub_self, Nat.sub_self, ← Finset.range_eq_Ico, ← Finset.range_eq_Ico,
    Finset.sum_product, Finset.sum_range]
  exact Finset.sum_congr rfl fun i _ => Finset.sum_range _

/-- The shares of a control point of a patch. -/
def patchShare (p q : Nat) (x y : α) (z : Nat × Nat) : α :=
  bernstein p z.1 x * bernstein q z.2 y

/-- The weights of a patch sum to one at every parameter. -/
theorem mass_patchNet_w (P : Fin (p + 1) → Fin (q + 1) → Vec3 α) (x y : α) :
    (mass (patchNet P) (places p p ×ˢ places q q) (patchShare p q x y)).w = 1 := by
  rw [mass_w, sum_places]
  simp only [cell_patchNet, Vec3.weighted, patchShare, mul_one]
  rw [← Finset.sum_mul_sum, sum_bernstein, sum_bernstein, mul_one]

/-- The division by the weight leaves the double Bernstein sum. -/
theorem unweighted_mass_patchNet (P : Fin (p + 1) → Fin (q + 1) → Vec3 α) (x y : α) :
    unweighted (mass (patchNet P) (places p p ×ˢ places q q) (patchShare p q x y)) =
      bernsteinForm P x y := by
  have hw := mass_patchNet_w P x y
  rw [unweighted_mass (hw.symm ▸ FieldScalar.epsilon_lt_one),
    Finset.centerMass_eq_of_sum_1 _ _ (mass_w.symm.trans hw), sum_places]
  simp only [cell_patchNet, Vec3.weighted, patchShare, mul_one]
  rfl

/-- Before the division a patch gives the mass of its points, at the clamped parameters. -/
theorem weightedPoint?_patchNet {P : Fin (p + 1) → Fin (q + 1) → Vec3 α} {s : Surface α}
    (h : MadeFrom s p q (clampedKnots p) (clampedKnots q) (patchNet P) (q + 1)) (u v : α) :
    s.weightedPoint? u v = some (mass (patchNet P) (places p p ×ˢ places q q)
      (patchShare p q (Scalar.clamp 0 1 u) (Scalar.clamp 0 1 v))) := by
  obtain ⟨spanU, locatedU⟩ := exists_located le_rfl (size_clampedKnots p) u
  obtain ⟨spanV, locatedV⟩ := exists_located le_rfl (size_clampedKnots q) v
  obtain rfl : spanU = p := locatedU.high.antisymm locatedU.low
  obtain rfl : spanV = q := locatedV.high.antisymm locatedV.low
  exact h.weightedPoint?_eq_mass List.length_ofFn locatedU locatedV
    (sharesAt_clampedKnots locatedU) (sharesAt_clampedKnots locatedV)

/-- A patch has a point at every pair of parameters, and it is the Bernstein sum. -/
theorem evaluate?_patchNet {P : Fin (p + 1) → Fin (q + 1) → Vec3 α} {s : Surface α}
    (h : MadeFrom s p q (clampedKnots p) (clampedKnots q) (patchNet P) (q + 1)) (u v : α) :
    s.evaluate? u v = some (bernsteinForm P (Scalar.clamp 0 1 u) (Scalar.clamp 0 1 v)) := by
  rw [evaluate?, weightedPoint?_patchNet h, Option.map_some, unweighted_mass_patchNet]

/-- At a corner, one polynomial in each direction is one and the others are zero. -/
theorem bernsteinForm_corner (P : Fin (p + 1) → Fin (q + 1) → Vec3 α) {x y : α}
    {k : Fin (p + 1)} {l : Fin (q + 1)}
    (hx : ∀ i : Fin (p + 1), bernstein p i x = if i = k then 1 else 0)
    (hy : ∀ j : Fin (q + 1), bernstein q j y = if j = l then 1 else 0) :
    bernsteinForm P x y = P k l := by
  simp [bernsteinForm, hx, hy]

/-- A convex set with all the control points has the whole patch. -/
theorem bernsteinForm_mem {P : Fin (p + 1) → Fin (q + 1) → Vec3 α} {points : Set (Vec3 α)}
    (hconvex : Convex α points) (hP : ∀ i j, P i j ∈ points) {x y : α} (hx : x ∈ Set.Icc 0 1)
    (hy : y ∈ Set.Icc 0 1) : bernsteinForm P x y ∈ points := by
  have hform : bernsteinForm P x y =
      ∑ i : Fin (p + 1), bernstein p i x • ∑ j : Fin (q + 1), bernstein q j y • P i j := by
    simp only [bernsteinForm, Finset.smul_sum, smul_smul]
  rw [hform]
  refine hconvex.sum_mem (fun i _ => bernstein_nonneg p i hx) (sum_bernstein p x) fun i _ => ?_
  exact hconvex.sum_mem (fun j _ => bernstein_nonneg q j hy) (sum_bernstein q y) fun j _ => hP i j

end Patch

/-- A patch is there for every net of the right size.  Its points are those of the Bernstein
form, so its corners are the corners of the net, and every box that holds the control points
holds the whole of it. -/
theorem patch?_bernstein (p q : Nat) (P : Fin (p + 1) → Fin (q + 1) → Vec3 α) :
    ∃ s, patch? p q (List.ofFn fun i => List.ofFn (P i)) = some s ∧
      (∀ u v, s.evaluate? u v =
        some (bernsteinForm P (Scalar.clamp 0 1 u) (Scalar.clamp 0 1 v))) ∧
      (s.evaluate? 0 0 = some (P 0 0) ∧ s.evaluate? 0 1 = some (P 0 (Fin.last q)) ∧
        s.evaluate? 1 0 = some (P (Fin.last p) 0) ∧
        s.evaluate? 1 1 = some (P (Fin.last p) (Fin.last q))) ∧
      ∀ b : Bounds α, (∀ i j, P i j ∈ b.points) →
        ∀ u v, ∃ x ∈ b.points, s.evaluate? u v = some x := by
  obtain ⟨s, hs⟩ := madeFrom_patchNet P
  have hvalue := evaluate?_patchNet hs
  refine ⟨s, (patch?_eq P).trans (ofNet?_eq_some_iff.mpr ⟨_, hs⟩), hvalue, ?_, ?_⟩
  · have first : ∀ {n : Nat} (i : Fin (n + 1)),
        bernstein n i (0 : α) = if i = 0 then 1 else 0 := by
      intro n i
      simp [bernstein_at_zero]
    have last : ∀ {n : Nat} (i : Fin (n + 1)),
        bernstein n i (1 : α) = if i = Fin.last n then 1 else 0 := by
      intro n i
      simp [bernstein_at_one, Fin.ext_iff]
    simp only [hvalue, FieldScalar.clamp_zero, FieldScalar.clamp_one,
      bernsteinForm_corner P first first, bernsteinForm_corner P first last,
      bernsteinForm_corner P last first, bernsteinForm_corner P last last, and_self]
  · intro b hP u v
    exact ⟨_, bernsteinForm_mem b.convex_points hP (FieldScalar.clamp_mem u)
      (FieldScalar.clamp_mem v), hvalue u v⟩

/-- Four points, one pair of opposite ones above the other. -/
def saddle : Fin 2 → Fin 2 → Vec3 ℚ
  | 0, 0 => ⟨0, 0, 0⟩
  | 0, 1 => ⟨0, 1, 1⟩
  | 1, 0 => ⟨1, 0, 1⟩
  | 1, 1 => ⟨1, 1, 0⟩

/-- The saddle over the unit square is a patch, and it stays inside the unit cube. -/
theorem patch?_saddle :
    ∃ s, patch? 1 1 [[⟨0, 0, 0⟩, ⟨0, 1, 1⟩], [⟨1, 0, 1⟩, ⟨1, 1, 0⟩]] = some s ∧
      ∀ u v : ℚ, ∃ x ∈ (⟨.zero, .one⟩ : Bounds ℚ).points, s.evaluate? u v = some x := by
  obtain ⟨s, hs, -, -, hbox⟩ := patch?_bernstein 1 1 saddle
  refine ⟨s, hs, hbox _ ?_⟩
  simp [saddle, Bounds.points, Vec3.zero, Vec3.one, Fin.forall_fin_two]

end Scenery.Surface
