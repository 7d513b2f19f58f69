import Mathlib.Algebra.BigOperators.Group.List.Basic
import Mathlib.Tactic.Ring
import Scenery.Proofs.Scalar.Field
import Scenery.Proofs.Surface.Within

/-!
# Shares as basis functions

The basis functions of knots are defined by a recursion over the degree that is due to Cox
and de Boor.  Of degree zero, the function of the span is one and the others are zero.  A
function of the next degree is a mean of two neighbours, each multiplied by how far the
parameter is into its support from one side, and divided by the length of that support
(`coxDeBoor`).  A quotient by zero is zero, as is usual for them.

The shares are found the other way round.  One run over the shares of a degree (`raise`)
divides each of them once, gives a part of the quotient to its own place in the next row and
carries the other part to the place after.  It makes the rows of the recursion one after
another (`raise_coxDeBoor`), as long as no support is so short that its quotient counts for
nothing.  All supports in use cover the span, so its length bounds theirs from below
(`Proper`).

Since the parts of a quotient add up to the share that was divided, a run keeps the sum of
the row, and since the parameter is in the span, no part is negative.
-/

namespace Scenery.Surface

variable {α : Type} [FieldScalar α]

/-! ## Basis functions -/

/-- The basis function of a degree and a control point, on a span. -/
def coxDeBoor (k : Nat → α) (span : Nat) (u : α) : Nat → Nat → α
  | 0, i => if i = span then 1 else 0
  | j + 1, i =>
      (u - k i) / (k (i + j + 1) - k i) * coxDeBoor k span u j i +
        (k (i + j + 2) - u) / (k (i + j + 2) - k (i + 1)) * coxDeBoor k span u j (i + 1)

theorem coxDeBoor_eq_zero {k : Nat → α} {span : Nat} {u : α} :
    ∀ {j i : Nat}, i + j < span ∨ span < i → coxDeBoor k span u j i = 0
  | 0, i, h => by
      have hne : i ≠ span := by omega
      rw [coxDeBoor, if_neg hne]
  | j + 1, i, h => by
      have here : i + j < span ∨ span < i := by omega
      have next : i + 1 + j < span ∨ span < i + 1 := by omega
      rw [coxDeBoor, coxDeBoor_eq_zero here, coxDeBoor_eq_zero next, mul_zero, mul_zero, add_zero]

/-! ## One run over a row -/

/-- The distances to the ends of a support that is long enough. -/
structure Covers (pair : α × α) : Prop where
  up : 0 ≤ pair.1
  down : 0 ≤ pair.2
  long : Scalar.epsilon < pair.1 + pair.2

theorem Covers.pos {pair : α × α} (h : Covers pair) : 0 < pair.1 + pair.2 :=
  FieldScalar.epsilon_pos.trans h.long

section Raise

variable {pair : α × α} {pairs : List (α × α)} {carried share : α} {row : List α}

theorem raise_cons (h : Covers pair) :
    raise (pair :: pairs) carried (share :: row) =
      (carried + pair.1 * (share / (pair.1 + pair.2))) ::
        raise pairs (pair.2 * (share / (pair.1 + pair.2))) row := by
  have hlong : Scalar.epsilon < Scalar.abs (pair.1 + pair.2) := by
    rw [FieldScalar.abs_eq, abs_of_pos h.pos]
    exact h.long
  simp only [raise, if_pos hlong]

/-- The two parts of a quotient add up to the share that was divided. -/
theorem Covers.parts (h : Covers pair) (share : α) :
    pair.1 * (share / (pair.1 + pair.2)) + pair.2 * (share / (pair.1 + pair.2)) = share := by
  rw [← add_mul, mul_div_cancel₀ share h.pos.ne']

theorem sum_raise (hpairs : ∀ pair ∈ pairs, Covers pair) (hlength : pairs.length = row.length) :
    (raise pairs carried row).sum = carried + row.sum := by
  induction pairs generalizing carried row with
  | nil =>
      obtain rfl : row = [] := List.eq_nil_of_length_eq_zero hlength.symm
      simp
  | cons pair pairs ih =>
      obtain ⟨hpair, hpairs⟩ := List.forall_mem_cons.mp hpairs
      cases row with
      | nil => cases hlength
      | cons share row =>
          rw [raise_cons hpair, List.sum_cons, ih hpairs (Nat.succ.inj hlength), List.sum_cons,
            ← add_assoc, add_assoc carried, hpair.parts, add_assoc]

theorem raise_nonneg (hpairs : ∀ pair ∈ pairs, Covers pair) (hcarried : 0 ≤ carried)
    (hrow : ∀ share ∈ row, 0 ≤ share) : ∀ share ∈ raise pairs carried row, 0 ≤ share := by
  induction pairs generalizing carried row with
  | nil => simpa using hcarried
  | cons pair pairs ih =>
      obtain ⟨hpair, hpairs⟩ := List.forall_mem_cons.mp hpairs
      cases row with
      | nil => simpa [raise] using hcarried
      | cons share row =>
          obtain ⟨hshare, hrow⟩ := List.forall_mem_cons.mp hrow
          have hpart : 0 ≤ share / (pair.1 + pair.2) := div_nonneg hshare hpair.pos.le
          rw [raise_cons hpair]
          exact List.forall_mem_cons.mpr ⟨add_nonneg hcarried (mul_nonneg hpair.up hpart),
            ih hpairs (mul_nonneg hpair.down hpart) hrow⟩

end Raise

/-! ## Rows of basis functions -/

section Rows

variable {k : Nat → α} {span : Nat} {u : α}

/-- The distances to the ends of the support of a basis function. -/
def reach (k : Nat → α) (u : α) (j l : Nat) : α × α := (k (l + j + 1) - u, u - k l)

theorem reach_length (k : Nat → α) (u : α) (j l : Nat) :
    (reach k u j l).1 + (reach k u j l).2 = k (l + j + 1) - k l :=
  sub_add_sub_cancel _ _ _

/-- One run over the functions of a degree, from the one of the control point `i + 1` on, gives
those of the next degree.  What is carried into it is the part of the function before. -/
theorem raise_coxDeBoor {j i n : Nat} (hlast : span ≤ i + n)
    (hcovers : ∀ l, i < l → l ≤ i + n → Covers (reach k u j l)) :
    raise ((List.range' (i + 1) n).map (reach k u j))
        ((u - k i) * (coxDeBoor k span u j i / (k (i + j + 1) - k i)))
        ((List.range' (i + 1) n).map (coxDeBoor k span u j)) =
      (List.range' i (n + 1)).map (coxDeBoor k span u (j + 1)) := by
  induction n generalizing i with
  | zero =>
      have hnext : coxDeBoor k span u j (i + 1) = 0 := coxDeBoor_eq_zero (by omega)
      rw [List.range'_zero, List.map_nil, raise_nil, List.range'_succ, List.map_cons,
        List.range'_zero, List.map_nil, coxDeBoor, hnext, mul_zero, add_zero, div_mul_eq_mul_div,
        mul_div_assoc]
  | succ n ih =>
      have hfirst := hcovers (i + 1) (by omega) (by omega)
      have hrest := ih (i := i + 1) (by omega) fun l hl hl' => hcovers l (by omega) (by omega)
      rw [List.range'_succ, List.map_cons, List.map_cons, raise_cons hfirst, reach_length,
        List.range'_succ (n := n + 1), List.map_cons]
      refine congrArg₂ List.cons ?_ hrest
      rw [coxDeBoor, show i + j + 2 = i + 1 + j + 1 by omega, div_mul_eq_mul_div, mul_div_assoc,
        div_mul_eq_mul_div, mul_div_assoc]
      rfl

end Rows

/-! ## The shares of a span -/

/-- A parameter is in a span, the knots near the span ascend, and its own are not too close
to each other. -/
structure Proper (k : Nat → α) (degree span : Nat) (u : α) : Prop where
  enough : degree ≤ span
  low : k span ≤ u
  high : u ≤ k (span + 1)
  apart : Scalar.epsilon < k (span + 1) - k span
  before : ∀ i ≤ span, span ≤ i + degree → k i ≤ k span
  after : ∀ i, span < i → i ≤ span + degree → k (span + 1) ≤ k i

namespace Proper

variable {knots : Array α} {degree span : Nat} {u : α}

/-- The support of a basis function that is used reaches over the span. -/
theorem covers {k : Nat → α} (h : Proper k degree span u) {j l : Nat} (hj : j < degree)
    (hl : l ≤ span) (hl' : span ≤ l + j) : Covers (reach k u j l) where
  up := sub_nonneg.mpr (h.high.trans (h.after (l + j + 1) (by omega) (by omega)))
  down := sub_nonneg.mpr ((h.before l hl (by omega)).trans h.low)
  long := by
    rw [reach_length]
    exact h.apart.trans_le (sub_le_sub (h.after (l + j + 1) (by omega) (by omega))
      (h.before l hl (by omega)))

/-- What the shares of a degree are paired with to make the next ones. -/
theorem pairs_eq (knots : Array α) (u : α) {j : Nat} (hj : j < degree) (hspan : degree ≤ span) :
    ((above knots span degree u).take (j + 1)).zip
        ((below knots span degree u).take (j + 1)).reverse =
      (List.range' (span - j) (j + 1)).map (reach (knot knots) u j) := by
  refine List.ext_getElem ?_ fun r hr hr' => ?_
  · simp only [above, below, List.length_zip, List.length_take, List.length_map,
      List.length_range, List.length_reverse, List.length_range']
    omega
  · have hr : r < j + 1 := by simpa using hr'
    have hup : span + (r + 1) = span - j + r + j + 1 := by omega
    have hdown : span - (min (j + 1) degree - 1 - r) = span - j + r := by omega
    simp [above, below, reach, hup, hdown]

/-- The shares of a span are the basis functions of its control points. -/
theorem shares_eq (h : Proper (knot knots) degree span u) {j : Nat} (hj : j ≤ degree) :
    shares (above knots span degree u) (below knots span degree u) j =
      (List.range' (span - j) (j + 1)).map (coxDeBoor (knot knots) span u j) := by
  induction j with
  | zero => simp [shares, coxDeBoor]
  | succ j ih =>
      have hspan := h.enough
      have hbefore : coxDeBoor (knot knots) span u j (span - (j + 1)) = 0 :=
        coxDeBoor_eq_zero (by omega)
      have hlast : span ≤ span - (j + 1) + (j + 1) := by omega
      have hcovers : ∀ l, span - (j + 1) < l → l ≤ span - (j + 1) + (j + 1) →
          Covers (reach (knot knots) u j l) :=
        fun l hl hl' => h.covers hj (by omega) (by omega)
      have hstep := raise_coxDeBoor hlast hcovers
      rw [shares_succ, ih (by omega), pairs_eq knots u hj hspan]
      rw [hbefore, zero_div, mul_zero, show span - (j + 1) + 1 = span - j by omega] at hstep
      exact hstep

/-- The shares of a span are not negative, and they add up to one. -/
theorem shares_fair (h : Proper (knot knots) degree span u) {j : Nat} (hj : j ≤ degree) :
    (∀ share ∈ shares (above knots span degree u) (below knots span degree u) j, 0 ≤ share) ∧
      (shares (above knots span degree u) (below knots span degree u) j).sum = 1 := by
  induction j with
  | zero => simp [shares]
  | succ j ih =>
      have hspan := h.enough
      obtain ⟨hnonneg, hsum⟩ := ih (by omega)
      have hpairs : ∀ pair ∈ (List.range' (span - j) (j + 1)).map (reach (knot knots) u j),
          Covers pair := by
        intro pair hpair
        obtain ⟨l, hl, rfl⟩ := List.mem_map.mp hpair
        have hl' := List.mem_range'_1.mp hl
        exact h.covers hj (by omega) (by omega)
      have hlength : ((List.range' (span - j) (j + 1)).map (reach (knot knots) u j)).length =
          (shares (above knots span degree u) (below knots span degree u) j).length := by
        rw [h.shares_eq (by omega)]
        simp
      rw [shares_succ, pairs_eq knots u hj hspan]
      exact ⟨raise_nonneg hpairs le_rfl hnonneg, by rw [sum_raise hpairs hlength, hsum, zero_add]⟩

end Proper

end Scenery.Surface
