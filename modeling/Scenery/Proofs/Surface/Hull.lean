import Mathlib.Analysis.Convex.Hull
import Scenery.Proofs.Surface.Mean
import Scenery.Proofs.Surface.Valid

/-!
# The hull of the control points

On valid knots the shares of a parameter are the basis functions of its span.  They are not
negative and add up to one.  If the weights of the control points are positive, then each
control point of the two spans has a part in the point of the surface that is not negative.
So where the sum of the parts is large enough for the division, the point is a mean of these
control points and lies in their convex hull (`ValidKnots.shared_and_hull`).

That a weight is positive does not make the sum of the parts large enough, so this stays a
condition at each point.
-/

namespace Scenery.Surface

theorem mem_of_getElem?_bind {β : Type} {rows : List (List β)} {i j : Nat} {c : β}
    (h : rows[i]?.bind (·[j]?) = some c) : ∃ row ∈ rows, c ∈ row := by
  obtain ⟨row, hrow, hc⟩ := Option.bind_eq_some_iff.mp h
  exact ⟨row, List.mem_of_getElem? hrow, List.mem_of_getElem? hc⟩

variable {α : Type} [FieldScalar α]

/-- The control points of two spans, without their weights. -/
def spanned (net : List (List (Vec4 α))) (degreeU degreeV spanU spanV : Nat) : Set (Vec3 α) :=
  {p | ∃ i ∈ places degreeU spanU, ∃ j ∈ places degreeV spanV,
    ∃ c, net[i]?.bind (·[j]?) = some c ∧ c.point = p}

/-- The center of mass of points with parts that are not negative is in their hull. -/
theorem unweighted_mass_mem {net : List (List (Vec4 α))} {used : Finset (Nat × Nat)}
    {share : Nat × Nat → α} {points : Set (Vec3 α)} (hshare : ∀ x ∈ used, 0 ≤ share x)
    (hweight : ∀ x ∈ used, 0 < (cell net x).w) (hpoint : ∀ x ∈ used, (cell net x).point ∈ points)
    (h : Scalar.epsilon < (mass net used share).w) :
    unweighted (mass net used share) ∈ convexHull α points := by
  rw [unweighted_mass h]
  refine Finset.centerMass_mem_convexHull used (fun x hx => ?_) ?_ hpoint
  · exact mul_nonneg (hshare x hx) (hweight x hx).le
  · rw [← mass_w]
    exact FieldScalar.epsilon_pos.trans h

theorem ValidKnots.basis_nonneg {knots : Array α} {degree n span : Nat} {t : α}
    (h : ValidKnots knots degree n) (located : Located knots n degree t span) :
    ∀ i ∈ places degree span,
      0 ≤ coxDeBoor (knot knots) span (toDomain knots n degree t) degree i := by
  intro i hi
  have hlow := located.low
  have shared := h.shared located
  refine shared.nonneg _ ?_
  rw [shared.basis]
  rw [places, Finset.mem_Ico] at hi
  exact List.mem_map_of_mem (List.mem_range'_1.mpr ⟨hi.1, by omega⟩)

section

variable {knotsU knotsV : Array α} {degreeU degreeV n m spanU spanV : Nat} {s : Surface α}
  {net : List (List (Vec4 α))} {u v : α}

theorem MadeFrom.evaluate?_mem_convexHull
    (h : MadeFrom s degreeU degreeV knotsU knotsV net (m + 1)) (hrows : net.length = n + 1)
    (hU : ValidKnots knotsU degreeU n) (hV : ValidKnots knotsV degreeV m)
    (hpos : ∀ row ∈ net, ∀ c ∈ row, 0 < c.w) (locatedU : Located knotsU n degreeU u spanU)
    (locatedV : Located knotsV m degreeV v spanV) {p : Vec4 α} (hp : s.weightedPoint? u v = some p)
    (hweight : Scalar.epsilon < p.w) :
    ∃ q ∈ convexHull α (spanned net degreeU degreeV spanU spanV), s.evaluate? u v = some q := by
  have hbasisU := (hU.shared locatedU).basis
  have hbasisV := (hV.shared locatedV).basis
  have hmass := h.weightedPoint?_eq_mass hrows locatedU locatedV hbasisU hbasisV
  obtain rfl := Option.some.inj (hp.symm.trans hmass)
  have hcell : ∀ x ∈ places degreeU spanU ×ˢ places degreeV spanV,
      net[x.1]?.bind (·[x.2]?) = some (cell net x) := by
    intro x hx
    have hhighU := locatedU.high
    have hhighV := locatedV.high
    rw [Finset.mem_product, places, places, Finset.mem_Ico, Finset.mem_Ico] at hx
    exact getElem?_eq_cell h.columns (by omega) (by omega)
  refine ⟨_, unweighted_mass_mem (fun x hx => ?_) (fun x hx => ?_) (fun x hx => ?_) hweight, ?_⟩
  · obtain ⟨hi, hj⟩ := Finset.mem_product.mp hx
    exact mul_nonneg (hU.basis_nonneg locatedU _ hi) (hV.basis_nonneg locatedV _ hj)
  · obtain ⟨row, hrow, hc⟩ := mem_of_getElem?_bind (hcell x hx)
    exact hpos row hrow _ hc
  · obtain ⟨hi, hj⟩ := Finset.mem_product.mp hx
    exact ⟨x.1, hi, x.2, hj, _, hcell x hx, rfl⟩
  · rw [evaluate?, hp, Option.map_some]

end

/-- The shares of valid knots are as they should be, and every point of a surface over two
directions of them is in the hull of the control points it is made of. -/
theorem ValidKnots.shared_and_hull {knotsU : Array α} {degreeU n : Nat}
    (hU : ValidKnots knotsU degreeU n) :
    (∀ t, ∃ u span row, Shared knotsU degreeU n t u span row) ∧
      ∀ {knotsV : Array α} {degreeV m : Nat}, ValidKnots knotsV degreeV m →
        ∀ net : List (List (Vec4 α)), net.length = n + 1 → (∀ row ∈ net, row.length = m + 1) →
          (∀ row ∈ net, ∀ c ∈ row, 0 < c.w) →
            ∃ s, ofNet? degreeU degreeV knotsU knotsV net = some s ∧
              ∀ u v, ∃ u' spanU rowU v' spanV rowV p,
                Shared knotsU degreeU n u u' spanU rowU ∧
                Shared knotsV degreeV m v v' spanV rowV ∧
                s.weightedPoint? u v = some p ∧
                (Scalar.epsilon < p.w →
                  ∃ q ∈ convexHull α (spanned net degreeU degreeV spanU spanV),
                    s.evaluate? u v = some q) := by
  refine ⟨hU.exists_shared, ?_⟩
  intro knotsV degreeV m hV net hrows hcols hpos
  have hsizeU : knotsU.size = net.length + degreeU + 1 := by rw [hU.size]; omega
  have hsizeV : knotsV.size = m + 1 + degreeV + 1 := by rw [hV.size]; omega
  have hmade : ∃ s, MadeFrom s degreeU degreeV knotsU knotsV net (m + 1) :=
    ⟨_, by omega, hcols, hsizeU, hsizeV, rfl⟩
  obtain ⟨s, hs⟩ := hmade
  refine ⟨s, ofNet?_eq_some_iff.mpr ⟨_, hs⟩, ?_⟩
  intro u v
  obtain ⟨spanU, locatedU⟩ := exists_located hU.enough hU.size u
  obtain ⟨spanV, locatedV⟩ := exists_located hV.enough hV.size v
  have sharedU := hU.shared locatedU
  have sharedV := hV.shared locatedV
  have hpoint := hs.weightedPoint?_eq_mass hrows locatedU locatedV sharedU.basis sharedV.basis
  exact ⟨_, spanU, _, _, spanV, _, _, sharedU, sharedV, hpoint, fun hweight =>
    hs.evaluate?_mem_convexHull hrows hU hV hpos locatedU locatedV hpoint hweight⟩

/-- Knots of two spans, with repeated ones at their ends. -/
def ridgeKnots : Array ℚ := #[0, 0, 1 / 2, 1, 1]

/-- Knots at equal distances. -/
def evenKnots : Array ℚ := #[0, 1, 2, 3]

/-- Three rows of two points, the middle one raised and heavier. -/
def ridge : List (List (Vec4 ℚ)) :=
  [[⟨0, 0, 0, 1⟩, ⟨0, 1, 0, 1⟩], [⟨1, 0, 1, 2⟩, ⟨1, 1, 1, 2⟩], [⟨2, 0, 0, 1⟩, ⟨2, 1, 0, 1⟩]]

/-- A point on a ridge is in the hull of the points it is spanned by. -/
theorem shared_and_hull_ridge :
    ∃ s spanU spanV, ofNet? 1 1 ridgeKnots evenKnots ridge = some s ∧
      ∃ q ∈ convexHull ℚ (spanned ridge 1 1 spanU spanV), s.evaluate? 1 0 = some q := by
  have hU : ValidKnots ridgeKnots 1 2 :=
    ⟨by decide, rfl, by decide +kernel, by decide +kernel, by decide +kernel, by decide +kernel⟩
  have hV : ValidKnots evenKnots 1 1 :=
    ⟨by decide, rfl, by decide +kernel, by decide +kernel, by decide +kernel, by decide +kernel⟩
  obtain ⟨s, hs, hall⟩ := hU.shared_and_hull.2 hV ridge rfl (by decide) (by decide +kernel)
  obtain ⟨_, spanU, _, _, spanV, _, p, _, _, hp, hhull⟩ := hall 1 0
  have hvalue : (ofNet? 1 1 ridgeKnots evenKnots ridge).bind (·.weightedPoint? 1 0) =
      some ⟨2, 0, 0, 1⟩ := by decide +kernel
  rw [hs, Option.bind_some, hp] at hvalue
  obtain rfl := Option.some.inj hvalue
  exact ⟨s, spanU, spanV, hs, hhull FieldScalar.epsilon_lt_one⟩

end Scenery.Surface
