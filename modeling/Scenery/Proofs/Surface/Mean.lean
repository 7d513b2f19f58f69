import Mathlib.Algebra.BigOperators.Intervals
import Scenery.Proofs.Surface.Within
import Scenery.Proofs.Vector

/-!
# A point of a surface as a mean

A point of a surface is found by two nested blends, one along the rows of the net for each
place in a row.  With exact numbers this is one sum over pairs of places, each with the
product of its two shares (`MadeFrom.weightedPoint?_eq_mass`).

The coordinates of the sum are those of the control points, each times its share and its own
weight, and the weight of the sum is the sum of these factors.  So dividing one by the other
gives the center of mass of the control points (`unweighted_mass`).
-/

namespace Scenery.Surface

variable {α : Type} [FieldScalar α]

/-! ## Places of the net -/

/-- The control point at two places, and zero where there is none. -/
def cell (net : List (List (Vec4 α))) (x : Nat × Nat) : Vec4 α :=
  (net[x.1]?.bind (·[x.2]?)).getD 0

theorem getElem?_eq_cell {net : List (List (Vec4 α))} {cols i j : Nat}
    (hcols : ∀ row ∈ net, row.length = cols) (hi : i < net.length) (hj : j < cols) :
    net[i]?.bind (·[j]?) = some (cell net (i, j)) := by
  have hrow := hcols net[i] (List.getElem_mem hi)
  rw [cell, List.getElem?_eq_getElem hi, Option.bind_some,
    List.getElem?_eq_getElem (hrow.symm ▸ hj), Option.getD_some]

/-- The places of the control points of a span. -/
def places (degree span : Nat) : Finset Nat := Finset.Ico (span - degree) (span + 1)

/-! ## Blends as sums -/

theorem blend?_eq_sum {point : Nat → Option (Vec4 α)} {P : Nat → Vec4 α} {f : Nat → α} {n : Nat} :
    ∀ {k : Nat} {sum : Vec4 α}, (∀ i ∈ Finset.Ico k (k + n), point i = some (P i)) →
      blend? point k ((List.range' k n).map f) sum =
        some (sum + ∑ i ∈ Finset.Ico k (k + n), f i • P i) := by
  induction n with
  | zero =>
      intro k sum _
      rw [Nat.add_zero, Finset.Ico_self, Finset.sum_empty, add_zero]
      rfl
  | succ n ih =>
      intro k sum h
      have hk := h k (Finset.mem_Ico.mpr ⟨le_rfl, by omega⟩)
      have hrest : ∀ i ∈ Finset.Ico (k + 1) (k + 1 + n), point i = some (P i) := by
        intro i hi
        rw [Finset.mem_Ico] at hi
        exact h i (Finset.mem_Ico.mpr ⟨by omega, by omega⟩)
      have hfirst : k < k + (n + 1) := by omega
      rw [List.range'_succ, List.map_cons, blend?, hk]
      simp only
      rw [ih hrest, Finset.sum_eq_sum_Ico_succ_bot hfirst fun i => f i • P i, ← add_assoc,
        show k + 1 + n = k + (n + 1) by omega]
      rfl

theorem blend?_places {point : Nat → Option (Vec4 α)} {P : Nat → Vec4 α} {f : Nat → α}
    {degree span : Nat} (hle : degree ≤ span) (h : ∀ i ∈ places degree span, point i = some (P i)) :
    blend? point (span - degree) ((List.range' (span - degree) (degree + 1)).map f) .zero =
      some (∑ i ∈ places degree span, f i • P i) := by
  have hlast : span - degree + (degree + 1) = span + 1 := by omega
  rw [places, ← hlast] at h ⊢
  exact (blend?_eq_sum h).trans (congrArg some (zero_add _))

/-- The sum of control points, each times its weight and a share. -/
def mass (net : List (List (Vec4 α))) (used : Finset (Nat × Nat)) (share : Nat × Nat → α) :
    Vec4 α :=
  ∑ x ∈ used, share x • premultiplied (cell net x)

theorem MadeFrom.weightedPoint?_eq_mass {s : Surface α} {degreeU degreeV n m spanU spanV : Nat}
    {knotsU knotsV : Array α} {net : List (List (Vec4 α))} {u v : α} {f g : Nat → α}
    (h : MadeFrom s degreeU degreeV knotsU knotsV net (m + 1)) (hrows : net.length = n + 1)
    (hU : Located knotsU n degreeU u spanU) (hV : Located knotsV m degreeV v spanV)
    (hf : sharesAt knotsU n degreeU u spanU = (List.range' (spanU - degreeU) (degreeU + 1)).map f)
    (hg : sharesAt knotsV m degreeV v spanV = (List.range' (spanV - degreeV) (degreeV + 1)).map g) :
    s.weightedPoint? u v =
      some (mass net (places degreeU spanU ×ˢ places degreeV spanV) fun x => f x.1 * g x.2) := by
  have hhighU := hU.high
  have hhighV := hV.high
  have hpoint : ∀ i ∈ places degreeU spanU, ∀ j ∈ places degreeV spanV,
      s.net[i]?.bind (·[j]?) = some (premultiplied (cell net (i, j))) := by
    intro i hi j hj
    rw [places, Finset.mem_Ico] at hi hj
    rw [h.point?_eq, getElem?_eq_cell h.columns (by omega) (by omega), Option.map_some]
  have hcolumn : ∀ j ∈ places degreeV spanV,
      blend? (fun i => s.net[i]?.bind (·[j]?)) (spanU - degreeU)
          ((List.range' (spanU - degreeU) (degreeU + 1)).map f) .zero =
        some (∑ i ∈ places degreeU spanU, f i • premultiplied (cell net (i, j))) :=
    fun j hj => blend?_places hU.low fun i hi => hpoint i hi j hj
  rw [h.weightedPoint?_eq hrows hU hV, hf, hg, blend?_places hV.low hcolumn, mass,
    Finset.sum_product_right]
  simp only [Finset.smul_sum, smul_smul, mul_comm (g _)]

/-! ## The center of mass -/

section Mass

variable {net : List (List (Vec4 α))} {used : Finset (Nat × Nat)} {share : Nat × Nat → α}

theorem mass_w : (mass net used share).w = ∑ x ∈ used, share x * (cell net x).w :=
  calc (mass net used share).w
      = ∑ x ∈ used, Vec4.weightMap (share x • premultiplied (cell net x)) :=
        map_sum Vec4.weightMap _ _
    _ = ∑ x ∈ used, share x * (cell net x).w :=
        Finset.sum_congr rfl fun x _ => map_smul Vec4.weightMap (share x) _

theorem mass_point :
    (mass net used share).point = ∑ x ∈ used, (share x * (cell net x).w) • (cell net x).point :=
  calc (mass net used share).point
      = ∑ x ∈ used, Vec4.pointMap (share x • premultiplied (cell net x)) :=
        map_sum Vec4.pointMap _ _
    _ = ∑ x ∈ used, share x • (cell net x).w • (cell net x).point :=
        Finset.sum_congr rfl fun x _ => map_smul Vec4.pointMap (share x) _
    _ = ∑ x ∈ used, (share x * (cell net x).w) • (cell net x).point :=
        Finset.sum_congr rfl fun _ _ => smul_smul _ _ _

/-- Without its weight, the sum is the center of mass of the control points. -/
theorem unweighted_mass (h : Scalar.epsilon < (mass net used share).w) :
    unweighted (mass net used share) =
      used.centerMass (fun x => share x * (cell net x).w) fun x => (cell net x).point := by
  have hpos := FieldScalar.epsilon_pos.trans h
  rw [unweighted, FieldScalar.abs_eq, abs_of_pos hpos, if_pos h, Vec3.dividedBy_eq_smul, mass_point,
    mass_w]
  rfl

end Mass

end Scenery.Surface
