import Mathlib.Data.List.Basic
import Scenery.Proofs.Scalar.Machine
import Scenery.Proofs.Surface.Span
import Scenery.Surface.Basic

/-!
# Within the knots and the net

Evaluating a surface reads knots and control points by computed indices, and ends with
nothing where one of them is not there.  Of a surface that was made from a net, this happens
either for all parameters or for none, and which of the two depends on the size of the net
alone (`exists_evaluate?_iff`).

*With more control points than the degree in each direction* the span found for a parameter
is one of the spans from the degree on.  So there are as many knots before and behind it as
the shares ask for, and the control points from the degree before the span up to the span
are in the net.  Nothing is asked of the knots but that there are enough of them, and nothing
of the numbers but that their comparisons go together.

*With fewer* there is no such row of control points in the whole net, whatever span is found.
Making a surface checks that the rows are of one length and that the knots are as many as
they should be, which a net of a single point passes for every degree
(`evaluate?_singlePoint`).
-/

namespace Scenery.Surface

/-! ## Lists of readings -/

section Lists

variable {β γ : Type} {f : β → Option γ}

theorem mapM_eq_some_map {g : β → γ} {l : List β} (h : ∀ x ∈ l, f x = some (g x)) :
    l.mapM f = some (l.map g) := by
  induction l with
  | nil => rfl
  | cons x l ih =>
      obtain ⟨hx, hl⟩ := List.forall_mem_cons.mp h
      rw [List.mapM_cons, hx, ih hl]
      rfl

theorem length_of_mapM_eq_some {l : List β} {r : List γ} (h : l.mapM f = some r) :
    r.length = l.length := by
  induction l generalizing r with
  | nil =>
      obtain rfl : [] = r := Option.some.inj h
      rfl
  | cons x l ih =>
      rw [List.mapM_cons] at h
      obtain ⟨y, -, h⟩ := Option.bind_eq_some_iff.mp h
      obtain ⟨r', hr', h⟩ := Option.bind_eq_some_iff.mp h
      obtain rfl : y :: r' = r := Option.some.inj h
      rw [List.length_cons, List.length_cons, ih hr']

end Lists

variable {α : Type} [Scalar α]

/-! ## Readings of the knots -/

section Knots

variable {knots : Array α} {n degree span : Nat}

/-- A parameter between zero and one, as a parameter of the knots for `n + 1` control
points. -/
def toDomain (knots : Array α) (n degree : Nat) (t : α) : α :=
  knot knots degree + Scalar.clamp 0 1 t * (knot knots (n + 1) - knot knots degree)

/-- With all the knots there a parameter is brought into the domain. -/
theorem toDomain?_eq (hsize : knots.size = n + degree + 2) (t : α) :
    toDomain? knots degree t = some (toDomain knots n degree t) := by
  have low : knots[degree]? = some (knot knots degree) := getElem?_eq_knot (by omega)
  have high : knots[n + 1]? = some (knot knots (n + 1)) := getElem?_eq_knot (by omega)
  have hlast : minus? (knots.size - degree) 1 = some (n + 1) := by
    rw [minus?_of_le (by omega)]
    exact congrArg some (by omega)
  simp only [toDomain?, low, minus?_of_le (show degree ≤ knots.size by omega), hlast, high,
    Option.bind_eq_bind, Option.bind_some, Option.pure_def, toDomain]

/-- The distances up to the knots after a span. -/
def above (knots : Array α) (span degree : Nat) (u : α) : List α :=
  (List.range degree).map fun i => knot knots (span + (i + 1)) - u

/-- The distances from the knots before a span. -/
def below (knots : Array α) (span degree : Nat) (u : α) : List α :=
  (List.range degree).map fun i => u - knot knots (span - i)

/-- The distances to the knots after a span are read if these knots are there. -/
theorem above?_eq (h : span + degree < knots.size) (u : α) :
    above? knots span degree u = some (above knots span degree u) := by
  refine mapM_eq_some_map fun i hi => ?_
  have hi : i < degree := List.mem_range.mp hi
  rw [getElem?_eq_knot (by omega)]
  rfl

/-- The distances to the knots up to a span are read if these knots are there. -/
theorem below?_eq (hlow : degree ≤ span) (h : span < knots.size) (u : α) :
    below? knots span degree u = some (below knots span degree u) := by
  refine mapM_eq_some_map fun i hi => ?_
  have hi : i < degree := List.mem_range.mp hi
  rw [minus?_of_le (by omega), Option.bind_eq_bind, Option.bind_some,
    getElem?_eq_knot (by omega)]
  rfl

/-- With enough knots before and behind a span, its shares are there. -/
theorem shares?_eq (hlow : degree ≤ span) (h : span + degree < knots.size) (u : α) :
    shares? span u degree knots =
      some (shares (above knots span degree u) (below knots span degree u) degree) := by
  rw [shares?, above?_eq h, below?_eq hlow (by omega)]
  rfl

/-! ### The span and the shares of a parameter -/

/-- A span is the one found for a parameter between zero and one, and it has control
points. -/
structure Located (knots : Array α) (n degree : Nat) (t : α) (span : Nat) : Prop where
  size : knots.size = n + degree + 2
  found : findSpan? n degree (toDomain knots n degree t) knots = some span
  low : degree ≤ span
  high : span ≤ n
  spanned : Spanned knots n degree (toDomain knots n degree t) span

/-- A net with more points than the degree has a span for every parameter. -/
theorem exists_located [Std.LawfulOrderLT α] (hn : degree ≤ n) (hsize : knots.size = n + degree + 2)
    (t : α) : ∃ span, Located knots n degree t span := by
  have hlast : n + 1 < knots.size := by omega
  obtain ⟨span, hfound, hlow, hhigh, hspan⟩ := exists_findSpan? hn hlast (toDomain knots n degree t)
  exact ⟨span, hsize, hfound, hlow, hhigh, hspan⟩

/-- The shares of the control points of a span in a parameter between zero and one. -/
def sharesAt (knots : Array α) (n degree : Nat) (t : α) (span : Nat) : List α :=
  shares (above knots span degree (toDomain knots n degree t))
    (below knots span degree (toDomain knots n degree t)) degree

/-- In the span of a parameter the shares are computed, and no knot is missing. -/
theorem Located.shares?_eq {t : α} (h : Located knots n degree t span) :
    shares? span (toDomain knots n degree t) degree knots =
      some (sharesAt knots n degree t span) := by
  have hsize := h.size
  have hhigh := h.high
  exact Surface.shares?_eq h.low (by omega) _

/-! ### As many shares as control points -/

@[simp] theorem raise_nil (carried : α) (row : List α) : raise [] carried row = [carried] := by
  simp [raise]

/-- A turn of the recursion has one share more than the row before it. -/
theorem length_raise (pairs : List (α × α)) (carried : α) (row : List α) :
    (raise pairs carried row).length = min pairs.length row.length + 1 := by
  induction pairs generalizing carried row with
  | nil => simp
  | cons pair pairs ih =>
      cases row with
      | nil => simp [raise]
      | cons share row =>
          rw [raise, List.length_cons, ih, List.length_cons, List.length_cons, Nat.succ_min_succ]

/-- The shares of the next degree are one turn of the recursion on those of the last. -/
theorem shares_succ (above below : List α) (j : Nat) :
    shares above below (j + 1) =
      raise ((above.take (j + 1)).zip (below.take (j + 1)).reverse) 0 (shares above below j) := by
  simp only [shares, List.range_succ, List.foldl_append, List.foldl_cons, List.foldl_nil]

/-- There is one share more than the degree. -/
theorem length_shares {above below : List α} (habove : degree ≤ above.length)
    (hbelow : degree ≤ below.length) : (shares above below degree).length = degree + 1 := by
  induction degree with
  | zero => rfl
  | succ degree ih =>
      rw [shares_succ, length_raise, ih (by omega) (by omega), List.length_zip, List.length_reverse,
        List.length_take, List.length_take]
      omega

theorem length_of_shares? {u : α} {row : List α} (h : shares? span u degree knots = some row) :
    row.length = degree + 1 := by
  obtain ⟨above, habove, h⟩ := Option.bind_eq_some_iff.mp h
  obtain ⟨below, hbelow, h⟩ := Option.bind_eq_some_iff.mp h
  obtain rfl : shares above below degree = row := Option.some.inj h
  have habove' := length_of_mapM_eq_some habove
  have hbelow' := length_of_mapM_eq_some hbelow
  rw [List.length_range] at habove' hbelow'
  exact length_shares habove'.ge hbelow'.ge

theorem Located.length_sharesAt {t : α} (h : Located knots n degree t span) :
    (sharesAt knots n degree t span).length = degree + 1 :=
  length_of_shares? h.shares?_eq

end Knots

/-! ## Readings of the net -/

/-- Points are blended if each of them is there. -/
theorem exists_blend?_iff {point : Nat → Option (Vec4 α)} {row : List α} :
    ∀ {k : Nat} {sum : Vec4 α}, (∃ p, blend? point k row sum = some p) ↔
      ∀ i < row.length, ∃ p, point (k + i) = some p := by
  induction row with
  | nil => exact fun {k sum} => ⟨fun _ i hi => absurd hi (Nat.not_lt_zero i), fun _ => ⟨sum, rfl⟩⟩
  | cons share row ih =>
      intro k sum
      cases hk : point k with
      | none =>
          rw [blend?, hk]
          constructor
          · rintro ⟨p, h⟩
            cases h
          · intro h
            obtain ⟨p, hp⟩ := h 0 (Nat.succ_pos _)
            rw [Nat.add_zero, hk] at hp
            cases hp
      | some p =>
          rw [blend?, hk]
          simp only
          rw [ih]
          constructor
          · intro h i hi
            cases i with
            | zero => exact ⟨p, hk⟩
            | succ i =>
                rw [show k + (i + 1) = k + 1 + i by omega]
                exact h i (Nat.lt_of_succ_lt_succ hi)
          · intro h i hi
            rw [show k + 1 + i = k + (i + 1) by omega]
            exact h (i + 1) (Nat.succ_lt_succ hi)

/-- A control point, multiplied by its weight. -/
def premultiplied (p : Vec4 α) : Vec4 α := ⟨p.x * p.w, p.y * p.w, p.z * p.w, p.w⟩

/-- A surface is made from knots and a net with rows of `cols` control points. -/
structure MadeFrom (s : Surface α) (degreeU degreeV : Nat) (knotsU knotsV : Array α)
    (net : List (List (Vec4 α))) (cols : Nat) : Prop where
  rows : 0 < net.length
  columns : ∀ row ∈ net, row.length = cols
  sizeU : knotsU.size = net.length + degreeU + 1
  sizeV : knotsV.size = cols + degreeV + 1
  eq : s = ⟨degreeU, degreeV, knotsU, knotsV,
    (net.map fun row => (row.map premultiplied).toArray).toArray⟩

/-- A surface is made exactly from a net that passes the checks, and keeps all of it. -/
theorem ofNet?_eq_some_iff {degreeU degreeV : Nat} {knotsU knotsV : Array α}
    {net : List (List (Vec4 α))} {s : Surface α} :
    ofNet? degreeU degreeV knotsU knotsV net = some s ↔
      ∃ cols, MadeFrom s degreeU degreeV knotsU knotsV net cols := by
  cases net with
  | nil =>
      constructor
      · rintro ⟨⟩
      · rintro ⟨cols, h⟩
        exact absurd h.rows (Nat.lt_irrefl 0)
  | cons first rest =>
      have hragged : ((first :: rest).any fun row => row.length != first.length) = true ↔
          ¬ ∀ row ∈ first :: rest, row.length = first.length := by
        simp only [List.any_eq_true, bne_iff_ne, ne_eq, not_forall, exists_prop]
      unfold ofNet?
      simp only [hragged]
      constructor
      · intro h
        split at h
        next => cases h
        next hcols =>
          split at h
          next => cases h
          next hsizes =>
            rw [not_or, not_not, not_not] at hsizes
            exact ⟨first.length, Nat.succ_pos _, not_not.mp hcols, hsizes.1, hsizes.2,
              (Option.some.inj h).symm⟩
      · rintro ⟨cols, h⟩
        obtain rfl : first.length = cols := h.columns first (List.mem_cons_self ..)
        rw [if_neg (not_not.mpr h.columns), if_neg (not_or.mpr ⟨not_not.mpr h.sizeU,
          not_not.mpr h.sizeV⟩), h.eq]
        rfl

namespace MadeFrom

variable {s : Surface α} {degreeU degreeV : Nat} {knotsU knotsV : Array α}
  {net : List (List (Vec4 α))} {cols : Nat}

theorem point?_eq (h : MadeFrom s degreeU degreeV knotsU knotsV net cols) (i j : Nat) :
    s.net[i]?.bind (·[j]?) = (net[i]?.bind (·[j]?)).map premultiplied := by
  rw [h.eq]
  simp only [List.getElem?_toArray, List.getElem?_map]
  cases net[i]? with
  | none => rfl
  | some row => simp only [Option.map_some, Option.bind_some, List.getElem?_toArray,
      List.getElem?_map]

/-- The control points that are there. -/
theorem exists_point?_iff (h : MadeFrom s degreeU degreeV knotsU knotsV net cols) {i j : Nat} :
    (∃ p, s.net[i]?.bind (·[j]?) = some p) ↔ i < net.length ∧ j < cols := by
  rw [h.point?_eq, ← Option.isSome_iff_exists, Option.isSome_map]
  by_cases hi : i < net.length
  · have hrow := h.columns net[i] (List.getElem_mem hi)
    rw [List.getElem?_eq_getElem hi, Option.bind_some, isSome_getElem?, hrow, and_iff_right hi]
  · rw [List.getElem?_eq_none (Nat.le_of_not_lt hi), Option.bind_none]
    exact ⟨fun hnone => absurd hnone Bool.false_ne_true, fun hlt => absurd hlt.1 hi⟩

/-- A surface has as many rows of points as its net. -/
theorem size_net (h : MadeFrom s degreeU degreeV knotsU knotsV net cols) :
    s.net.size = net.length := by
  rw [h.eq, List.size_toArray, List.length_map]

/-- The first row of the net. -/
theorem exists_firstRow (h : MadeFrom s degreeU degreeV knotsU knotsV net cols) :
    ∃ row, s.net[0]? = some row ∧ row.size = cols := by
  have hpos := h.rows
  have hrow := h.columns net[0] (List.getElem_mem hpos)
  rw [h.eq]
  simp only [List.getElem?_toArray, List.getElem?_map, List.getElem?_eq_getElem hpos,
    Option.map_some]
  exact ⟨_, rfl, by rw [List.size_toArray, List.length_map, hrow]⟩

end MadeFrom

/-! ## Evaluating -/

section Evaluating

variable {s : Surface α} {degreeU degreeV : Nat} {knotsU knotsV : Array α}
  {net : List (List (Vec4 α))} {cols : Nat}

/-- Where a point is given, there are more control points than the degree in each direction:
the last share of the last share is one of a control point. -/
theorem MadeFrom.enough_of_weightedPoint? (h : MadeFrom s degreeU degreeV knotsU knotsV net cols)
    {u v : α} {p : Vec4 α} (hp : s.weightedPoint? u v = some p) :
    degreeU < net.length ∧ degreeV < cols := by
  obtain ⟨u', -, hp⟩ := Option.bind_eq_some_iff.mp hp
  obtain ⟨v', -, hp⟩ := Option.bind_eq_some_iff.mp hp
  obtain ⟨lastU, -, hp⟩ := Option.bind_eq_some_iff.mp hp
  obtain ⟨row, -, hp⟩ := Option.bind_eq_some_iff.mp hp
  obtain ⟨lastV, -, hp⟩ := Option.bind_eq_some_iff.mp hp
  obtain ⟨spanU, -, hp⟩ := Option.bind_eq_some_iff.mp hp
  obtain ⟨spanV, -, hp⟩ := Option.bind_eq_some_iff.mp hp
  obtain ⟨sharesU, hU, hp⟩ := Option.bind_eq_some_iff.mp hp
  obtain ⟨sharesV, hV, hp⟩ := Option.bind_eq_some_iff.mp hp
  obtain ⟨firstU, -, hp⟩ := Option.bind_eq_some_iff.mp hp
  obtain ⟨firstV, -, hp⟩ := Option.bind_eq_some_iff.mp hp
  have hdegrees : s.degreeU = degreeU ∧ s.degreeV = degreeV := by
    rw [h.eq]
    exact ⟨rfl, rfl⟩
  have hlast : degreeV < sharesV.length := by rw [length_of_shares? hV, hdegrees.2]; omega
  have hlast' : degreeU < sharesU.length := by rw [length_of_shares? hU, hdegrees.1]; omega
  have hcolumn := exists_blend?_iff.mp ⟨p, hp⟩ degreeV hlast
  have hpoint := h.exists_point?_iff.mp (exists_blend?_iff.mp hcolumn degreeU hlast')
  omega

/-- The point at two parameters, by the spans found for them. -/
theorem MadeFrom.weightedPoint?_eq {n m spanU spanV : Nat} {u v : α}
    (h : MadeFrom s degreeU degreeV knotsU knotsV net (m + 1)) (hrows : net.length = n + 1)
    (hU : Located knotsU n degreeU u spanU) (hV : Located knotsV m degreeV v spanV) :
    s.weightedPoint? u v =
      blend? (fun j => blend? (fun i => s.net[i]?.bind (·[j]?)) (spanU - degreeU)
        (sharesAt knotsU n degreeU u spanU) .zero)
        (spanV - degreeV) (sharesAt knotsV m degreeV v spanV) .zero := by
  obtain ⟨row, hrow, hcols⟩ := h.exists_firstRow
  have hlast : minus? s.net.size 1 = some n := by
    rw [h.size_net, hrows, minus?_of_le (Nat.le_add_left 1 n), Nat.add_sub_cancel]
  have hlast' : minus? row.size 1 = some m := by
    rw [hcols, minus?_of_le (Nat.le_add_left 1 m), Nat.add_sub_cancel]
  have heq : s.degreeU = degreeU ∧ s.degreeV = degreeV ∧ s.knotsU = knotsU ∧ s.knotsV = knotsV := by
    rw [h.eq]
    exact ⟨rfl, rfl, rfl, rfl⟩
  obtain ⟨hdegreeU, hdegreeV, hknotsU, hknotsV⟩ := heq
  simp only [weightedPoint?, hdegreeU, hdegreeV, hknotsU, hknotsV, Option.bind_eq_bind,
    Option.bind_some, toDomain?_eq hU.size, toDomain?_eq hV.size, hlast, hrow, hlast', hU.found,
    hV.found, hU.shares?_eq, hV.shares?_eq, minus?_of_le hU.low, minus?_of_le hV.low]

/-- With more control points than the degree in each direction, there is a point. -/
theorem MadeFrom.exists_weightedPoint? [Std.LawfulOrderLT α]
    (h : MadeFrom s degreeU degreeV knotsU knotsV net cols) (hU : degreeU < net.length)
    (hV : degreeV < cols) (u v : α) : ∃ p, s.weightedPoint? u v = some p := by
  obtain ⟨n, hrows⟩ := Nat.exists_eq_add_one.mpr h.rows
  obtain ⟨m, rfl⟩ := Nat.exists_eq_add_one.mpr (Nat.zero_lt_of_lt hV)
  have hsizeU : knotsU.size = n + degreeU + 2 := by rw [h.sizeU]; omega
  have hsizeV : knotsV.size = m + degreeV + 2 := by rw [h.sizeV]; omega
  obtain ⟨spanU, locatedU⟩ := exists_located (by omega) hsizeU u
  obtain ⟨spanV, locatedV⟩ := exists_located (by omega) hsizeV v
  rw [h.weightedPoint?_eq hrows locatedU locatedV]
  refine exists_blend?_iff.mpr fun j hj => exists_blend?_iff.mpr fun i hi => ?_
  rw [locatedU.length_sharesAt] at hi
  rw [locatedV.length_sharesAt] at hj
  have hlowU := locatedU.low
  have hlowV := locatedV.low
  have hhighU := locatedU.high
  have hhighV := locatedV.high
  exact h.exists_point?_iff.mpr ⟨by omega, by omega⟩

end Evaluating

/-- A surface that was made has a point at some parameters, and then at all, if and only if
there are more control points than the degree in each direction. -/
theorem exists_evaluate?_iff [Std.LawfulOrderLT α] {degreeU degreeV : Nat}
    {knotsU knotsV : Array α} {net : List (List (Vec4 α))} {s : Surface α}
    (h : ofNet? degreeU degreeV knotsU knotsV net = some s) (u v : α) :
    (∃ p, s.evaluate? u v = some p) ↔
      degreeU < net.length ∧ ∀ row ∈ net, degreeV < row.length := by
  obtain ⟨cols, h⟩ := ofNet?_eq_some_iff.mp h
  have hcolumns : (∀ row ∈ net, degreeV < row.length) ↔ degreeV < cols := by
    constructor
    · intro hall
      have hpos := h.rows
      have hfirst := List.getElem_mem hpos
      exact h.columns _ hfirst ▸ hall _ hfirst
    · intro hlt row hrow
      rwa [h.columns row hrow]
  rw [hcolumns]
  constructor
  · rintro ⟨p, hp⟩
    obtain ⟨q, hq, -⟩ := Option.map_eq_some_iff.mp hp
    exact h.enough_of_weightedPoint? hq
  · rintro ⟨hU, hV⟩
    obtain ⟨q, hq⟩ := h.exists_weightedPoint? hU hV u v
    exact ⟨unweighted q, by rw [evaluate?, hq, Option.map_some]⟩

/-- Two lines of points, bent where the second row is. -/
def bentNet : List (List (Vec4 Float32)) :=
  [[⟨0, 0, 0, 1⟩, ⟨0, 1, 0, 1⟩], [⟨1, 0, 1, 2⟩, ⟨1, 1, 1, 2⟩], [⟨2, 0, 0, 1⟩, ⟨2, 1, 0, 1⟩]]

/-- A surface with more points than the degree each way has a point where it is asked for. -/
theorem evaluate?_bentNet :
    ∃ s, ofNet? 1 1 #[0, 0, 0.5, 1, 1] #[0, 0, 1, 1] bentNet = some s ∧
      ∃ p, s.evaluate? 0.75 0 = some p := by
  have hmade : ∃ s, ofNet? 1 1 #[0, 0, 0.5, 1, 1] #[0, 0, 1, 1] bentNet = some s := ⟨_, rfl⟩
  obtain ⟨s, hs⟩ := hmade
  exact ⟨s, hs, (exists_evaluate?_iff hs 0.75 0).mpr ⟨by decide, by decide⟩⟩

/-- A net of a single point passes for any degree if the knots are as many as they should be. -/
theorem evaluate?_singlePoint :
    ∃ s : Surface Float32, ofNet? 1 0 #[0, 0, 1] #[0, 1] [[⟨1, 2, 3, 1⟩]] = some s ∧
      s.evaluate? 0.5 0.5 = none := by
  have hmade : ∃ s : Surface Float32, ofNet? 1 0 #[0, 0, 1] #[0, 1] [[⟨1, 2, 3, 1⟩]] = some s :=
    ⟨_, rfl⟩
  obtain ⟨s, hs⟩ := hmade
  refine ⟨s, hs, ?_⟩
  obtain ⟨cols, h⟩ := ofNet?_eq_some_iff.mp hs
  cases hp : s.weightedPoint? 0.5 0.5 with
  | none => rw [evaluate?, hp, Option.map_none]
  | some p => exact absurd (h.enough_of_weightedPoint? hp).1 (Nat.lt_irrefl 1)

end Scenery.Surface
