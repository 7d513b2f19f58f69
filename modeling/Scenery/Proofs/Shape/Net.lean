import Mathlib.Tactic.Common
import Scenery.Proofs.Surface.Within
import Scenery.Shape.Build

/-!
# Nets of control points

A patch gives its control points as one flat list, and its degrees say how many there should
be: one more than the degree in each direction, and the product of the two in all.  If there
are as many, the list is cut into rows of equal length, nothing is lost and nothing is moved
(`exists_pieces`), and there is only one way to do so (`pieces_flatten`).  Such a net always
makes a surface, since knots of a single span go with it (`exists_patch?`).

The product is computed in a word of 64 bits.  Each factor is at most `2 ^ 32`, so one product
leaves the words, the greatest of all (`Overruns`).  For a patch of those degrees there is neither
a net nor a reason why there is none, since the program stops (`controlNet?_overfull`).
`controlNet?_law` says that this is the only such pair of degrees, and what becomes of the list
for all others.
-/

namespace Scenery.Shape

/-! ## Cutting a list -/

section Pieces

variable {β : Type} {length count rows : Nat}

/-- A list that goes up in rows is cut into them. -/
theorem exists_pieces (hlength : 0 < length) :
    ∀ {rows count : Nat} {xs : List β}, rows ≤ count → xs.length = rows * length →
      (pieces length count xs).length = rows ∧
        (∀ row ∈ pieces length count xs, row.length = length) ∧
          (pieces length count xs).flatten = xs := by
  intro rows
  induction rows with
  | zero =>
      intro count xs _ hxs
      rw [Nat.zero_mul, List.length_eq_zero_iff] at hxs
      subst hxs
      cases count <;> simp [pieces, hlength]
  | succ rows ih =>
      intro count xs hcount hxs
      obtain ⟨count, rfl⟩ : ∃ c, count = c + 1 := ⟨count - 1, by omega⟩
      have hlong : length ≤ xs.length := by
        rw [hxs]
        exact Nat.le_mul_of_pos_left _ (Nat.succ_pos rows)
      have hdrop : (xs.drop length).length = rows * length := by
        rw [List.length_drop, hxs, Nat.succ_mul, Nat.add_sub_cancel]
      obtain ⟨hrows, hrow, hflat⟩ := ih (Nat.le_of_succ_le_succ hcount) hdrop
      rw [pieces, if_neg (Nat.not_lt_of_le hlong)]
      refine ⟨by rw [List.length_cons, hrows], ?_, ?_⟩
      · rintro row (_ | ⟨_, hmem⟩)
        · exact List.length_take_of_le hlong
        · exact hrow row hmem
      · rw [List.flatten_cons, hflat, List.take_append_drop]

/-- Rows of equal length that are put one after another are what they are cut into. -/
theorem pieces_flatten (hlength : 0 < length) {rows : List (List β)}
    (hrows : ∀ row ∈ rows, row.length = length) (hcount : rows.length ≤ count) :
    pieces length count rows.flatten = rows := by
  induction rows generalizing count with
  | nil => cases count <;> simp [pieces, hlength]
  | cons row rest ih =>
      rw [List.length_cons] at hcount
      obtain ⟨count, rfl⟩ : ∃ c, count = c + 1 := ⟨count - 1, by omega⟩
      obtain ⟨hrow, hrest⟩ := List.forall_mem_cons.mp hrows
      have hlong : length ≤ (row ++ rest.flatten).length := by
        rw [List.length_append, hrow]
        exact Nat.le_add_right ..
      rw [List.flatten_cons, pieces, if_neg (Nat.not_lt_of_le hlong), List.take_left' hrow,
        List.drop_left' hrow, ih hrest (Nat.le_of_succ_le_succ hcount)]

end Pieces

variable {α : Type}

/-! ## How many control points -/

/-- The number of control points that the degrees of a patch ask for. -/
def netNeeds (g : Patch α) : Nat := (g.degreeU.toNat + 1) * (g.degreeV.toNat + 1)

/-- Both degrees are the greatest that a patch can have. -/
def Overruns (g : Patch α) : Prop := g.degreeU.toNat = 0xFFFFFFFF ∧ g.degreeV.toNat = 0xFFFFFFFF

/-- Only the greatest product leaves the words of 64 bits. -/
theorem netNeeds_le_maxWord_iff {g : Patch α} : netNeeds g ≤ maxWord ↔ ¬ Overruns g := by
  have hu : g.degreeU.toNat < 0x100000000 := g.degreeU.toNat_lt
  have hv : g.degreeV.toNat < 0x100000000 := g.degreeV.toNat_lt
  constructor
  · rintro hle ⟨hu', hv'⟩
    rw [netNeeds, hu', hv'] at hle
    exact absurd hle (by decide)
  · intro hnot
    -- one of the factors is not the greatest, and then the product is short of a whole factor
    rcases Nat.lt_or_ge g.degreeU.toNat 0xFFFFFFFF with hless | hgreatest
    · calc netNeeds g ≤ 0xFFFFFFFF * 0x100000000 := Nat.mul_le_mul hless hv
        _ ≤ maxWord := by decide
    · have hless : g.degreeV.toNat < 0xFFFFFFFF := by
        unfold Overruns at hnot
        omega
      calc netNeeds g ≤ 0x100000000 * 0xFFFFFFFF := Nat.mul_le_mul hu hless
        _ ≤ maxWord := by decide

/-- The number of control points that is computed is that of the degrees, if it is a word. -/
theorem netSize?_eq_some {g : Patch α} (h : ¬ Overruns g) : netSize? g = some (netNeeds g) :=
  if_pos (netNeeds_le_maxWord_iff.mpr h)

/-- A product that overruns is not there. -/
theorem netSize?_of_overruns {g : Patch α} (h : Overruns g) : netSize? g = none :=
  if_neg fun hle => netNeeds_le_maxWord_iff.mp hle h

/-! ## The net of a patch -/

/-- With a number of control points that is a word, a patch has a net or a reason why not. -/
theorem controlNet?_eq_some {g : Patch α} (h : ¬ Overruns g) :
    controlNet? g = some (if g.points.length = netNeeds g then
      .ok (pieces (g.degreeV.toNat + 1) g.points.length g.points)
      else .error (netError g (netNeeds g))) := by
  rw [controlNet?, netSize?_eq_some h, Option.bind_eq_bind, Option.bind_some]
  split <;> rfl

/-- There is neither where the product overruns, and only there. -/
theorem controlNet?_eq_none_iff {g : Patch α} : controlNet? g = none ↔ Overruns g := by
  by_cases h : Overruns g
  · rw [controlNet?, netSize?_of_overruns h]
    exact iff_of_true rfl h
  · rw [controlNet?_eq_some h]
    exact iff_of_false nofun h

/-- A net is the one whose rows, of the length of the degree, are the control points. -/
theorem controlNet?_eq_ok_iff {g : Patch α} (h : ¬ Overruns g) {net : List (List (Vec3 α))} :
    controlNet? g = some (.ok net) ↔ net.length = g.degreeU.toNat + 1 ∧
      (∀ row ∈ net, row.length = g.degreeV.toNat + 1) ∧ net.flatten = g.points := by
  have hpos : 0 < g.degreeV.toNat + 1 := Nat.succ_pos _
  rw [controlNet?_eq_some h, Option.some.injEq]
  constructor
  · intro hnet
    split at hnet
    next hlength =>
      cases hnet
      refine exists_pieces hpos ?_ hlength
      rw [hlength]
      exact Nat.le_mul_of_pos_right _ hpos
    next => cases hnet
  · rintro ⟨hrows, hrow, hflat⟩
    have hlength : g.points.length = netNeeds g := by
      rw [← hflat, List.length_flatten, List.map_congr_left hrow, List.map_const',
        List.sum_replicate_nat, hrows, netNeeds]
    rw [if_pos hlength, ← hflat, pieces_flatten hpos hrow]
    rw [hflat, hlength, hrows]
    exact Nat.le_mul_of_pos_right _ hpos

/-- Short of an overrun there is a net exactly if there are as many points as it needs. -/
theorem exists_controlNet?_iff {g : Patch α} (h : ¬ Overruns g) :
    (∃ net, controlNet? g = some (.ok net)) ↔ g.points.length = netNeeds g := by
  rw [controlNet?_eq_some h]
  split
  next hlength => exact ⟨fun _ => hlength, fun _ => ⟨_, rfl⟩⟩
  next hlength =>
    refine ⟨?_, fun h' => absurd h' hlength⟩
    rintro ⟨net, hnet⟩
    cases hnet

/-- Short of an overrun the one error is a wrong number of points, with both numbers in it. -/
theorem controlNet?_eq_error_iff {g : Patch α} (h : ¬ Overruns g) {e : GeometryError} :
    controlNet? g = some (.error e) ↔ g.points.length ≠ netNeeds g ∧
      e = .controlPointCount g.degreeU.toNat g.degreeV.toNat (netNeeds g) g.points.length := by
  rw [controlNet?_eq_some h, Option.some.injEq]
  split
  next hlength => exact iff_of_false (fun hok => by cases hok) fun h' => h'.1 hlength
  next hlength =>
    rw [Except.error.injEq, and_iff_right hlength]
    exact eq_comm

/-- A patch that has a net does not overrun. -/
theorem not_overruns_of_controlNet? {g : Patch α} {outcome : Except GeometryError _}
    (h : controlNet? g = some outcome) : ¬ Overruns g := by
  intro hoverruns
  rw [controlNet?_eq_none_iff.mpr hoverruns] at h
  cases h

variable [Angular α]

/-- A net with as many rows, and as many control points in each, as the degrees ask for makes a
surface. -/
theorem exists_patch? {degreeU degreeV : Nat} {net : List (List (Vec3 α))}
    (hrows : net.length = degreeU + 1) (hrow : ∀ row ∈ net, row.length = degreeV + 1) :
    ∃ surface, Surface.patch? degreeU degreeV net = some surface := by
  cases net with
  | nil => cases hrows
  | cons first rest =>
      unfold Surface.patch?
      simp only [Surface.ofNet?_eq_some_iff]
      refine ⟨_, degreeV + 1, by simp, ?_, ?_, ?_, rfl⟩
      · intro row hmem
        obtain ⟨points, hpoints, rfl⟩ := List.mem_map.mp hmem
        rw [List.length_map]
        exact hrow points hpoints
      · rw [Surface.size_clampedKnots, List.length_map, hrows]
        omega
      · rw [Surface.size_clampedKnots]
        omega

/-- The net of a patch makes a surface. -/
theorem exists_patch?_of_controlNet? {g : Patch α} {net : List (List (Vec3 α))}
    (h : controlNet? g = some (.ok net)) :
    ∃ surface, Surface.patch? g.degreeU.toNat g.degreeV.toNat net = some surface := by
  obtain ⟨hrows, hrow, -⟩ := (controlNet?_eq_ok_iff (not_overruns_of_controlNet? h)).mp h
  exact exists_patch? hrows hrow

/-- What becomes of a patch with segments is decided by its net. -/
theorem ofPatch?_of_parts {g : Patch α} (hu : g.partsU ≠ 0) (hv : g.partsV ≠ 0) :
    ofPatch? g = (controlNet? g).bind fun
      | .error e => some (.error e)
      | .ok net =>
          match Surface.patch? g.degreeU.toNat g.degreeV.toNat net with
          | some surface => some (.ok (atOrigin (sampled surface g.partsU.toNat g.partsV.toNat)))
          | none => (netSize? g).bind fun needed => some (.error (netError g needed)) := by
  rw [ofPatch?, if_neg hu, if_neg hv]
  rfl

/-- With parts and a net that makes a patch the figure is the patch's samples. -/
theorem ofPatch?_of_net {g : Patch α} (hu : g.partsU ≠ 0) (hv : g.partsV ≠ 0)
    {net : List (List (Vec3 α))} (hnet : controlNet? g = some (.ok net)) {surface : Surface α}
    (hsurface : Surface.patch? g.degreeU.toNat g.degreeV.toNat net = some surface) :
    ofPatch? g = some (.ok (atOrigin (sampled surface g.partsU.toNat g.partsV.toNat))) := by
  rw [ofPatch?_of_parts hu hv, hnet, Option.bind_some]
  simp only [hsurface]

/-- A patch is neither built nor refused if it has segments and overruns, and only then. -/
theorem ofPatch?_eq_none_iff {g : Patch α} :
    ofPatch? g = none ↔ g.partsU ≠ 0 ∧ g.partsV ≠ 0 ∧ Overruns g := by
  by_cases hu : g.partsU = 0
  · rw [ofPatch?, if_pos hu]
    exact iff_of_false nofun fun h => h.1 hu
  by_cases hv : g.partsV = 0
  · rw [ofPatch?, if_neg hu, if_pos hv]
    exact iff_of_false nofun fun h => h.2.1 hv
  rw [and_iff_right hu, and_iff_right hv, ← controlNet?_eq_none_iff]
  cases hnet : controlNet? g with
  | none =>
      rw [ofPatch?_of_parts hu hv, hnet]
      exact iff_of_true rfl rfl
  | some outcome =>
      refine iff_of_false ?_ nofun
      cases outcome with
      | error e =>
          rw [ofPatch?_of_parts hu hv, hnet]
          exact nofun
      | ok net =>
          obtain ⟨surface, hsurface⟩ := exists_patch?_of_controlNet? hnet
          rw [ofPatch?_of_net hu hv hnet hsurface]
          exact nofun

/-- Building a patch as a figure stops the program: the patch has the greatest degrees, and it has
segments and no more vertices than 32 bits can count, so that it is not refused for them. -/
structure Stops (g : Patch α) : Prop where
  cols : g.partsU ≠ 0
  rows : g.partsV ≠ 0
  few : gridEstimate g.partsU.toNat g.partsV.toNat ≤ maxVertices
  overruns : Overruns g

/-- Building a figure stops the program if it is such a patch, and only then. -/
theorem build?_eq_none_iff {f : Figure α} : f.build? = none ↔ ∃ g, f = .nurbs g ∧ Stops g := by
  cases f with
  | nurbs g =>
      unfold Figure.build?
      split
      next hmany =>
        refine iff_of_false nofun ?_
        rintro ⟨other, hother, hstops⟩
        cases hother
        exact absurd hstops.few (Nat.not_le_of_lt hmany)
      next hfew =>
        refine ofPatch?_eq_none_iff.trans ⟨fun ⟨hu, hv, hoverruns⟩ => ?_, ?_⟩
        · exact ⟨g, rfl, hu, hv, Nat.le_of_not_lt hfew, hoverruns⟩
        · rintro ⟨other, hother, hstops⟩
          cases hother
          exact ⟨hstops.cols, hstops.rows, hstops.overruns⟩
  | rectangle | triangle | box | sphere | cylinder | polygon | video =>
      unfold Figure.build?
      refine iff_of_false ?_ (by rintro ⟨g, hg, -⟩; cases hg)
      split <;> exact nofun

/-- What becomes of the control points of a patch. -/
structure NetLaw (g : Patch α) : Prop where
  /-- The number of control points that the degrees ask for leaves the words of 64 bits if both
  degrees are the greatest, and only then. -/
  fits : netNeeds g ≤ maxWord ↔ ¬ Overruns g
  /-- Then the program stops, and only then. -/
  stops : controlNet? g = none ↔ Overruns g
  /-- For all other degrees there is a net with that number of control points, and with no
  other. -/
  accepted : ¬ Overruns g →
    ((∃ net, controlNet? g = some (.ok net)) ↔ g.points.length = netNeeds g)
  /-- It is the net with the rows of the degrees that holds the control points in their order. -/
  rows : ¬ Overruns g → ∀ net, controlNet? g = some (.ok net) ↔
    net.length = g.degreeU.toNat + 1 ∧ (∀ row ∈ net, row.length = g.degreeV.toNat + 1) ∧
      net.flatten = g.points
  /-- With any other number that number is told, and the one that the degrees ask for. -/
  refused : ¬ Overruns g → ∀ e, controlNet? g = some (.error e) ↔
    g.points.length ≠ netNeeds g ∧
      e = .controlPointCount g.degreeU.toNat g.degreeV.toNat (netNeeds g) g.points.length
  /-- A net makes a surface, so a patch with segments that has a net is built. -/
  built : ∀ net, controlNet? g = some (.ok net) → ∃ surface,
    Surface.patch? g.degreeU.toNat g.degreeV.toNat net = some surface ∧
      (g.partsU ≠ 0 → g.partsV ≠ 0 →
        ofPatch? g = some (.ok (atOrigin (sampled surface g.partsU.toNat g.partsV.toNat))))
  /-- Building a patch stops the program if the patch has segments and the greatest degrees. -/
  unbuilt : ofPatch? g = none ↔ g.partsU ≠ 0 ∧ g.partsV ≠ 0 ∧ Overruns g

/-- The control points of a patch are cut into the rows that its degrees ask for, unless both
degrees are the greatest there are.  Then the program stops. -/
theorem controlNet?_law (g : Patch α) : NetLaw g where
  fits := netNeeds_le_maxWord_iff
  stops := controlNet?_eq_none_iff
  accepted := exists_controlNet?_iff
  rows h _ := controlNet?_eq_ok_iff h
  refused h _ := controlNet?_eq_error_iff h
  built net hnet := by
    obtain ⟨surface, hsurface⟩ := exists_patch?_of_controlNet? hnet
    exact ⟨surface, hsurface, fun hu hv => ofPatch?_of_net hu hv hnet hsurface⟩
  unbuilt := ofPatch?_eq_none_iff

/-- A patch of the greatest degrees with a single control point. -/
def overfull : Patch Float32 :=
  { degreeU := 0xFFFFFFFF, degreeV := 0xFFFFFFFF, partsU := 1, partsV := 1, points := [.zero] }

/-- Its degrees ask for `2 ^ 64` control points, which it does not have.  It is not refused for
that, since the program stops before it has counted. -/
theorem controlNet?_overfull :
    netNeeds overfull = 18446744073709551616 ∧ overfull.points.length ≠ netNeeds overfull ∧
      controlNet? overfull = none ∧ ofPatch? overfull = none :=
  ⟨rfl, by decide, rfl, rfl⟩

end Scenery.Shape
