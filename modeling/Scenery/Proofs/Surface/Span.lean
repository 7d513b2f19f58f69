import Mathlib.Logic.Function.Iterate
import Scenery.Proofs.Scalar.Field
import Scenery.Surface.Basis

/-!
# The span of a parameter

The search for the span of a parameter compares the parameter with knots, and halves an
interval of indices until it is one span long.  It takes nothing for granted about the
knots: they need not ascend.  What carries it is that the parameter is not below the knot
at the lower end of the interval and not at or above the knot at the upper end.  Halving
keeps both, since each end moves to a knot that was just compared.

`searchSpan?` gives up where halving would leave an interval as it is.  `turn` is one turn of
the search that does not look for that, and would go on for ever.  It never has to
(`Reached.turn_cases`): an interval of one span is the span looked for, and a longer one has an
index strictly between its ends.  So as many turns are enough as it takes to halve the
interval down to one span, and the search finds the span at which they come to rest
(`Reached.searchSpan?_eq`).

Where the numbers are in order, this says that the parameter lies between the two knots of
the span.  It holds of machine numbers as well, with which a parameter or a knot may not
compare at all.  All that is asked of the numbers is `Std.LawfulOrderLT`.

The search is left out where the parameter is at or beyond either end, and then the first or
the last span is taken (`exists_findSpan?`).  Over numbers in a total order the two ends and
what is between them are all there is (`spanOf_findSpan?`).
-/

namespace Scenery.Surface

variable {α : Type} [Scalar α]

/-- The knot of an index, and zero where there is none. -/
def knot (knots : Array α) (i : Nat) : α := knots.getD i 0

theorem getElem?_eq_knot {knots : Array α} {i : Nat} (h : i < knots.size) :
    knots[i]? = some (knot knots i) := by
  rw [knot, Array.getD_eq_getD_getElem?, Array.getElem?_eq_getElem h, Option.getD_some]

theorem minus?_of_le {a b : Nat} (h : b ≤ a) : minus? a b = some (a - b) := if_pos h

/-- A parameter is not below the lower knot of a span, nor at or above the upper one. -/
structure Brackets (knots : Array α) (u : α) (low high : Nat) : Prop where
  low : ¬ u < knot knots low
  high : ¬ knot knots high ≤ u

section

variable [Std.LawfulOrderLT α] {a b : α}

theorem not_le_of_lt (h : a < b) : ¬ b ≤ a := ((Std.LawfulOrderLT.lt_iff a b).mp h).2

theorem not_lt_of_not_le (h : ¬ a ≤ b) : ¬ a < b :=
  fun hlt => h ((Std.LawfulOrderLT.lt_iff a b).mp hlt).1

end

/-! ## Turns of the search -/

/-- The indices of the two knots that a search is between. -/
structure Interval where
  /-- The lower index. -/
  low : Nat
  /-- The upper index. -/
  high : Nat
deriving DecidableEq, Repr

/-- The index where an interval is halved. -/
def Interval.middle (i : Interval) : Nat := (i.low + i.high) / 2

/-- One turn of the search.  An end of the interval goes to the middle, even if it was there
before, unless the span from the middle on is the one looked for. -/
def turn (knots : Array α) (u : α) (i : Interval) : Interval :=
  if u < knot knots i.middle then { i with high := i.middle }
  else if knot knots (i.middle + 1) ≤ u then { i with low := i.middle }
  else i

variable {knots : Array α} {u : α} {low high : Nat} {i : Interval}

/-- One step of the search, within the knots. -/
theorem searchSpan?_eq_ite (hlt : i.low < i.high) (hsize : i.high < knots.size) :
    searchSpan? knots u i.low i.high =
      if u < knot knots i.middle then searchSpan? knots u i.low i.middle
      else if knot knots (i.middle + 1) ≤ u then
        if i.low < i.middle then searchSpan? knots u i.middle i.high else none
      else some i.middle := by
  have hmid : i.middle < i.high := by rw [Interval.middle]; omega
  have here : knots[i.middle]? = some (knot knots i.middle) := getElem?_eq_knot (by omega)
  have next : knots[i.middle + 1]? = some (knot knots (i.middle + 1)) :=
    getElem?_eq_knot (by omega)
  rw [Interval.middle] at hmid here next ⊢
  rw [searchSpan?, here, next, Option.bind_eq_bind, Option.bind_some, Option.bind_some,
    if_pos hmid]

/-- The span from the middle on is the one looked for. -/
def AtRest (knots : Array α) (u : α) (i : Interval) : Prop :=
  Brackets knots u i.middle (i.middle + 1)

theorem AtRest.turn_eq (h : AtRest knots u i) : turn knots u i = i := by
  rw [turn, if_neg h.low, if_neg h.high]

/-- Where a search may be that began between two knots which bracket the parameter. -/
structure Reached (knots : Array α) (u : α) (bottom top : Nat) (i : Interval) : Prop where
  size : top < knots.size
  low : bottom ≤ i.low
  proper : i.low < i.high
  high : i.high ≤ top
  brackets : Brackets knots u i.low i.high
  search : searchSpan? knots u i.low i.high = searchSpan? knots u bottom top

namespace Reached

variable {bottom top : Nat}

theorem start (hlt : low < high) (hsize : high < knots.size) (h : Brackets knots u low high) :
    Reached knots u low high ⟨low, high⟩ where
  size := hsize
  low := le_rfl
  proper := hlt
  high := le_rfl
  brackets := h
  search := rfl

theorem within (h : Reached knots u bottom top i) : i.high < knots.size := h.high.trans_lt h.size

/-- The search finds the span at which its turns come to rest. -/
theorem searchSpan?_eq (h : Reached knots u bottom top i) (hrest : AtRest knots u i) :
    searchSpan? knots u bottom top = some i.middle := by
  rw [← h.search, searchSpan?_eq_ite h.proper h.within, if_neg hrest.low, if_neg hrest.high]

/-- What a turn does.  If it moves an end, the middle is strictly between the ends. -/
theorem turn_cases (h : Reached knots u bottom top i) :
    AtRest knots u i ∨
      (i.low < i.middle ∧ u < knot knots i.middle ∧ turn knots u i = ⟨i.low, i.middle⟩) ∨
      (i.low < i.middle ∧ ¬ u < knot knots i.middle ∧ knot knots (i.middle + 1) ≤ u ∧
        turn knots u i = ⟨i.middle, i.high⟩) := by
  have hproper := h.proper
  have hlow : i.low ≤ i.middle := by rw [Interval.middle]; omega
  by_cases hhere : u < knot knots i.middle
  · -- the lower end is not the middle, since the parameter is below the middle only
    have hne : i.low ≠ i.middle := fun heq => h.brackets.low (by rwa [heq])
    exact .inr (.inl ⟨lt_of_le_of_ne hlow hne, hhere, if_pos hhere⟩)
  · by_cases hnext : knot knots (i.middle + 1) ≤ u
    · -- the next knot is not the upper end, since the parameter is not at or above that
      have hne : i.high ≠ i.middle + 1 := fun heq => h.brackets.high (by rwa [heq])
      have hlt : i.low < i.middle := by rw [Interval.middle] at hne ⊢; omega
      exact .inr (.inr ⟨hlt, hhere, hnext, (if_neg hhere).trans (if_pos hnext)⟩)
    · exact .inl ⟨hhere, hnext⟩

variable [Std.LawfulOrderLT α]

/-- A turn leads on, and keeps what the search comes to. -/
theorem after_turn (h : Reached knots u bottom top i) :
    Reached knots u bottom top (turn knots u i) := by
  have hproper := h.proper
  have hmiddle : i.middle < i.high := by rw [Interval.middle]; omega
  obtain hrest | ⟨hlt, hhere, heq⟩ | ⟨hlt, hhere, hnext, heq⟩ := h.turn_cases
  · rwa [hrest.turn_eq]
  · rw [heq]
    exact
      { size := h.size
        low := h.low
        proper := hlt
        high := hmiddle.le.trans h.high
        brackets := ⟨h.brackets.low, not_le_of_lt hhere⟩
        search := by
          rw [← h.search, searchSpan?_eq_ite h.proper h.within, if_pos hhere] }
  · rw [heq]
    exact
      { size := h.size
        low := h.low.trans hlt.le
        proper := hmiddle
        high := h.high
        brackets := ⟨hhere, h.brackets.high⟩
        search := by
          rw [← h.search, searchSpan?_eq_ite h.proper h.within, if_neg hhere, if_pos hnext,
            if_pos hlt] }

theorem after_turns (h : Reached knots u bottom top i) (count : Nat) :
    Reached knots u bottom top ((turn knots u)^[count] i) :=
  Function.Iterate.rec (Reached knots u bottom top) h (fun _ => after_turn) count

/-- A search comes to rest in so many turns that halving as often makes one span of those
between its ends. -/
theorem atRest_after_turns (h : Reached knots u bottom top i) {count : Nat}
    (hcount : i.high - i.low ≤ 2 ^ count) : AtRest knots u ((turn knots u)^[count] i) := by
  induction count generalizing i with
  | zero =>
      have hproper := h.proper
      obtain hrest | ⟨hlt, -⟩ | ⟨hlt, -⟩ := h.turn_cases
      · exact hrest
      -- there is no middle strictly between neighbours
      all_goals
        rw [Interval.middle] at hlt
        omega
  | succ count ih =>
      rw [pow_succ] at hcount
      rw [Function.iterate_succ_apply]
      obtain hrest | ⟨hlt, -, heq⟩ | ⟨hlt, -, -, heq⟩ := h.turn_cases
      · rwa [hrest.turn_eq, Function.iterate_fixed hrest.turn_eq]
      all_goals
        refine ih h.after_turn ?_
        rw [heq]
        dsimp only [Interval.middle] at hlt ⊢
        omega

end Reached

section

variable [Std.LawfulOrderLT α]

/-- Between two knots that bracket the parameter the search comes to a span that does. -/
theorem exists_searchSpan? (hlt : low < high) (hsize : high < knots.size)
    (h : Brackets knots u low high) :
    ∃ mid, searchSpan? knots u low high = some mid ∧ low ≤ mid ∧ mid < high ∧
      Brackets knots u mid (mid + 1) := by
  have hstart := Reached.start hlt hsize h
  obtain ⟨count, hcount⟩ : ∃ count, high - low ≤ 2 ^ count := ⟨_, Nat.lt_two_pow_self.le⟩
  have hend := hstart.after_turns count
  have hrest := hstart.atRest_after_turns hcount
  have hlow := hend.low
  have hproper := hend.proper
  have hhigh := hend.high
  refine ⟨_, hend.searchSpan?_eq hrest, ?_, ?_, hrest⟩
  all_goals
    rw [Interval.middle]
    omega

end

/-! ## The span that is found -/

variable {n degree : Nat}

theorem findSpan?_eq (hn : degree ≤ n) (hsize : n + 1 < knots.size) (u : α) :
    findSpan? n degree u knots =
      if knot knots (n + 1) ≤ u then some n
      else if u ≤ knot knots degree then some degree
      else searchSpan? knots u degree (n + 1) := by
  have last : knots[n + 1]? = some (knot knots (n + 1)) := getElem?_eq_knot hsize
  have first : knots[degree]? = some (knot knots degree) := getElem?_eq_knot (by omega)
  rw [findSpan?, last, first, Option.bind_eq_bind, Option.bind_some, Option.bind_some]

/-- Where the search for the span of a parameter ends, for `n + 1` control points. -/
inductive Spanned (knots : Array α) (n degree : Nat) (u : α) : Nat → Prop where
  /-- In the last span, if the parameter is at or beyond the end. -/
  | last (h : knot knots (n + 1) ≤ u) : Spanned knots n degree u n
  /-- In the first span, if the parameter is not beyond the start. -/
  | first (h : ¬ knot knots (n + 1) ≤ u) (h' : u ≤ knot knots degree) :
      Spanned knots n degree u degree
  /-- In a span that brackets the parameter. -/
  | inner {span : Nat} (h : ¬ knot knots (n + 1) ≤ u) (h' : ¬ u ≤ knot knots degree)
      (hspan : Brackets knots u span (span + 1)) : Spanned knots n degree u span

variable [Std.LawfulOrderLT α]

/-- The search for a span ends, at a span that has control points, if there are more of these
than the degree. -/
theorem exists_findSpan? (hn : degree ≤ n) (hsize : n + 1 < knots.size) (u : α) :
    ∃ span, findSpan? n degree u knots = some span ∧ degree ≤ span ∧ span ≤ n ∧
      Spanned knots n degree u span := by
  rw [findSpan?_eq hn hsize]
  by_cases hlast : knot knots (n + 1) ≤ u
  · exact ⟨n, if_pos hlast, hn, le_rfl, .last hlast⟩
  · by_cases hfirst : u ≤ knot knots degree
    · exact ⟨degree, by rw [if_neg hlast, if_pos hfirst], le_rfl, hn, .first hlast hfirst⟩
    · obtain ⟨span, heq, hle, hlt, hspan⟩ := exists_searchSpan? (Nat.lt_succ_of_le hn) hsize
        ⟨not_lt_of_not_le hfirst, hlast⟩
      exact ⟨span, by rw [if_neg hlast, if_neg hfirst, heq], hle, Nat.le_of_lt_succ hlt,
        .inner hlast hfirst hspan⟩

/-- Between the two ends, halving comes to rest at the span that is found. -/
theorem middle_after_turns (hn : degree ≤ n) (hsize : n + 1 < knots.size)
    (hends : Brackets knots u degree (n + 1)) (hfirst : ¬ u ≤ knot knots degree) {span count : Nat}
    (hspan : findSpan? n degree u knots = some span) (hcount : n + 1 - degree ≤ 2 ^ count) :
    AtRest knots u ((turn knots u)^[count] ⟨degree, n + 1⟩) ∧
      ((turn knots u)^[count] ⟨degree, n + 1⟩).middle = span := by
  have hstart := Reached.start (Nat.lt_succ_of_le hn) hsize hends
  have hrest := hstart.atRest_after_turns hcount
  refine ⟨hrest, Option.some.inj ?_⟩
  rw [← (hstart.after_turns count).searchSpan?_eq hrest, ← hspan, findSpan?_eq hn hsize,
    if_neg hends.high, if_neg hfirst]

/-- A span is the one to find for a parameter, for `n + 1` control points, and halving gets
there. -/
structure SpanOf (knots : Array α) (n degree : Nat) (u : α) (span : Nat) : Prop where
  low : degree ≤ span
  high : span ≤ n
  /-- Strictly between the two ends the span holds the parameter. -/
  inner : knot knots degree < u → u < knot knots (n + 1) →
    knot knots span ≤ u ∧ u < knot knots (span + 1)
  last : knot knots (n + 1) ≤ u → span = n
  first : u ≤ knot knots degree → u < knot knots (n + 1) → span = degree
  /-- As many turns are enough as halve the spans between the two ends down to one. -/
  turns : knot knots degree < u → u < knot knots (n + 1) → ∀ count, n + 1 - degree ≤ 2 ^ count →
    AtRest knots u ((turn knots u)^[count] ⟨degree, n + 1⟩) ∧
      ((turn knots u)^[count] ⟨degree, n + 1⟩).middle = span

/-- Over numbers in a total order a span is found for every parameter, whether or not the knots
ascend. -/
theorem spanOf_findSpan? [Std.IsLinearOrder α] (hn : degree ≤ n)
    (hsize : knots.size = n + degree + 2) (u : α) :
    ∃ span, findSpan? n degree u knots = some span ∧ SpanOf knots n degree u span := by
  have hlast : n + 1 < knots.size := by omega
  obtain ⟨span, heq, hlow, hhigh, hspanned⟩ := exists_findSpan? hn hlast u
  refine ⟨span, heq, ?_⟩
  exact
    { low := hlow
      high := hhigh
      inner := fun hfirst hlast => by
        cases hspanned with
        | last h => exact absurd h (not_le_of_lt hlast)
        | first _ h => exact absurd h (not_le_of_lt hfirst)
        | inner _ _ hspan => exact ⟨Std.not_lt.mp hspan.low, Std.not_le.mp hspan.high⟩
      last := fun h => by
        cases hspanned with
        | last => rfl
        | first h' => exact absurd h h'
        | inner h' => exact absurd h h'
      first := fun h h' => by
        cases hspanned with
        | last hend => exact absurd hend (not_le_of_lt h')
        | first => rfl
        | inner _ hstart => exact absurd h hstart
      turns := fun hfirst hend _ hcount =>
        have hstart := not_le_of_lt hfirst
        middle_after_turns hn hlast ⟨not_lt_of_not_le hstart, not_le_of_lt hend⟩ hstart heq hcount }

/-- Knots that go up and down. -/
def crooked : Array ℚ := #[0, 6, 1, 5, 2, 0, 8, 4, 9]

theorem spanOf_crooked :
    2 ≤ 5 ∧ crooked.size = 5 + 2 + 2 ∧ knot crooked 2 < 3 ∧ 3 < knot crooked 6 ∧
      ∃ span, findSpan? 5 2 3 crooked = some span ∧ SpanOf crooked 5 2 3 span :=
  ⟨by decide, by decide, by decide, by decide, spanOf_findSpan? (by decide) (by decide) 3⟩

end Scenery.Surface
