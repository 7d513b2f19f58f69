import Mathlib.Order.Interval.Set.Basic
import Scenery.Proofs.Surface.Shares

/-!
# Valid knots

Knots are valid if they ascend, if there are as many as control points and one more than the
degree, if the parameters do not start or end with an empty span, and if two of them that are
not the same are not too close to each other (`ValidKnots`).  They may repeat, and they need
not start or end with repeated ones.

A parameter between zero and one goes to one between the knots where the parameters start and
end.  So the span that is found for it is not empty and holds it, at the closed end as well
(`ValidKnots.proper`), and all that was said about the shares of such a span holds
(`ValidKnots.exists_shared`).
-/

namespace Scenery.Surface

variable {α : Type} [FieldScalar α]

/-- Knots are valid for `n + 1` control points. -/
structure ValidKnots (knots : Array α) (degree n : Nat) : Prop where
  enough : degree ≤ n
  size : knots.size = n + degree + 2
  ascending : knots.toList.Pairwise (· ≤ ·)
  first : knot knots degree < knot knots (degree + 1)
  last : knot knots n < knot knots (n + 1)
  apart : ∀ a ∈ knots, ∀ b ∈ knots, a < b → Scalar.epsilon < b - a

/-- How shares are found for a parameter `t` between zero and one, and what they are: `u` is
the parameter of the knots, and `row` holds the shares of the control points of the span. -/
structure Shared (knots : Array α) (degree n : Nat) (t u : α) (span : Nat) (row : List α) :
    Prop where
  domain : toDomain? knots degree t = some u
  found : findSpan? n degree u knots = some span
  given : shares? span u degree knots = some row
  low : degree ≤ span
  high : span ≤ n
  proper : knot knots span < knot knots (span + 1)
  basis : row = (List.range' (span - degree) (degree + 1)).map
    (coxDeBoor (knot knots) span u degree)
  nonneg : ∀ share ∈ row, 0 ≤ share
  sum : row.sum = 1

namespace ValidKnots

variable {knots : Array α} {degree n span : Nat} {t : α}

theorem knot_mem {i : Nat} (hi : i < knots.size) : knot knots i ∈ knots :=
  Array.mem_of_getElem? (getElem?_eq_knot hi)

theorem knot_le_knot (h : ValidKnots knots degree n) {i j : Nat} (hij : i ≤ j)
    (hj : j < knots.size) : knot knots i ≤ knot knots j := by
  rcases hij.eq_or_lt with rfl | hlt
  · exact le_rfl
  · have hi : i < knots.size := hlt.trans hj
    have hpair := List.pairwise_iff_getElem.mp h.ascending i j hi hj hlt
    rw [Array.getElem_toList, Array.getElem_toList] at hpair
    simpa [knot, hi, hj] using hpair

/-- Parameters go to where the shares are defined. -/
theorem toDomain_mem (h : ValidKnots knots degree n) (t : α) :
    toDomain knots n degree t ∈ Set.Icc (knot knots degree) (knot knots (n + 1)) := by
  have hsize := h.size
  have hlength : 0 ≤ knot knots (n + 1) - knot knots degree :=
    sub_nonneg.mpr (h.knot_le_knot (h.enough.trans n.le_succ) (by omega))
  constructor
  · exact le_add_of_nonneg_right (mul_nonneg (FieldScalar.clamp_mem t).1 hlength)
  · have hpart := mul_le_of_le_one_left hlength (FieldScalar.clamp_mem t).2
    calc toDomain knots n degree t
        ≤ knot knots degree + (knot knots (n + 1) - knot knots degree) := add_le_add le_rfl hpart
      _ = knot knots (n + 1) := add_sub_cancel _ _

/-- The span found for a parameter is not empty. -/
theorem knot_lt_knot (h : ValidKnots knots degree n) (located : Located knots n degree t span) :
    knot knots span < knot knots (span + 1) := by
  cases located.spanned with
  | last => exact h.last
  | first => exact h.first
  | inner _ _ hspan => exact (not_lt.mp hspan.low).trans_lt (not_le.mp hspan.high)

/-- The span found for a parameter holds it. -/
theorem toDomain_mem_span (h : ValidKnots knots degree n)
    (located : Located knots n degree t span) :
    toDomain knots n degree t ∈ Set.Icc (knot knots span) (knot knots (span + 1)) := by
  have hproper := h.knot_lt_knot located
  obtain ⟨hlow, hhigh⟩ := h.toDomain_mem t
  cases located.spanned with
  | last hend => exact ⟨hproper.le.trans hend, hhigh⟩
  | first _ hstart => exact ⟨hlow, hstart.trans hproper.le⟩
  | inner _ _ hspan => exact ⟨not_lt.mp hspan.low, (not_le.mp hspan.high).le⟩

theorem proper (h : ValidKnots knots degree n) (located : Located knots n degree t span) :
    Proper (knot knots) degree span (toDomain knots n degree t) := by
  have hsize := h.size
  have hhigh := located.high
  obtain ⟨hlow, hup⟩ := h.toDomain_mem_span located
  exact
    { enough := located.low
      low := hlow
      high := hup
      apart := h.apart _ (knot_mem (by omega)) _ (knot_mem (by omega)) (h.knot_lt_knot located)
      before := fun i hi _ => h.knot_le_knot hi (by omega)
      after := fun i hi hi' => h.knot_le_knot hi (by omega) }

theorem shared (h : ValidKnots knots degree n) (located : Located knots n degree t span) :
    Shared knots degree n t (toDomain knots n degree t) span (sharesAt knots n degree t span) := by
  have hproper := h.proper located
  obtain ⟨hnonneg, hsum⟩ := hproper.shares_fair le_rfl
  exact
    { domain := toDomain?_eq h.size t
      found := located.found
      given := located.shares?_eq
      low := located.low
      high := located.high
      proper := h.knot_lt_knot located
      basis := hproper.shares_eq le_rfl
      nonneg := hnonneg
      sum := hsum }

theorem exists_shared (h : ValidKnots knots degree n) (t : α) :
    ∃ u span row, Shared knots degree n t u span row := by
  obtain ⟨span, located⟩ := exists_located h.enough h.size t
  exact ⟨_, span, _, h.shared located⟩

end ValidKnots

end Scenery.Surface
