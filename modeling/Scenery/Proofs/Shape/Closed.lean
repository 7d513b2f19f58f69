import Mathlib.Algebra.BigOperators.Intervals
import Mathlib.Data.List.Perm.Basic
import Mathlib.Data.ZMod.Basic
import Scenery.Proofs.Shape.Border

/-!
# Polygons are closed surfaces

The triangles of a polygon lie flat, but they bound a surface: what is in front is the fan to
the first ring and the bands between the rings, and the fan to the last ring is the back
(`Figure.closed_of_build`).

*Closed.*  Let something flow along the directed edges of a mesh, so that against an edge
flows the opposite of what flows along it.  If nothing ever flows around all triangles
together, each directed edge occurs as often as its reverse (`Shape.count_eq_of_around`).  For a
polygon this is a sum that telescopes twice.  Around a slice what goes out along its spoke
comes back along the next, and around the middle the last slice is next to the first.  So the fan
and each band leave what flows around their rings, the outer less the inner one
(`Shape.sum_around_band`), and the back takes away what is left at the last ring.

*Without repeated edges.*  The rings are drawn cell by cell, a cell being a ring and a slice, and
slices are added up around the middle.  At least three slices are needed, or else both ways
along a ring would be one (`Shape.distinct_ringStrokes`).  The middle is no corner of such a cell,
and its edges are looked at apart.  With one ring alone the spokes in front are also those of the
back, and each occurs twice.
-/

namespace Scenery

open Finset (sum_range_sub sum_range_sub')

/-- What flows around a triangle. -/
def Face.around (flow : Nat → Nat → ℤ) (f : Face) : ℤ :=
  flow f.a f.b + flow f.b f.c + flow f.c f.a

namespace Shape

/-! ## Flows -/

/-- What flows along a directed edge is the opposite of what flows against it. -/
def Alternating (flow : Nat → Nat → ℤ) : Prop := ∀ u v, flow v u = -flow u v

/-- What flows around the triangles is what flows along their edges. -/
theorem sum_around (flow : Nat → Nat → ℤ) (faces : List Face) :
    (faces.map (Face.around flow)).sum =
      ((faces.flatMap Face.edges).map fun e => flow e.1 e.2).sum := by
  induction faces with
  | nil => rfl
  | cons f rest ih =>
      rw [List.map_cons, List.sum_cons, List.flatMap_cons, List.map_append, List.sum_append, ih]
      simp only [Face.around, Face.edges, List.map_cons, List.map_nil, List.sum_cons, List.sum_nil]
      ring

/-- The flow of one along a directed edge and of one less against it. -/
def alongEdge (u v x y : Nat) : ℤ :=
  (if (x, y) = (u, v) then 1 else 0) - if (x, y) = (v, u) then 1 else 0

/-- The flow along one edge is opposite against it. -/
theorem alternating_alongEdge (u v : Nat) : Alternating (alongEdge u v) := by
  intro x y
  have hswap : ∀ a b : Nat, (y, x) = (a, b) ↔ (x, y) = (b, a) := by
    simp only [Prod.mk.injEq, and_comm, implies_true]
  simp only [alongEdge, hswap]
  ring

/-- The flow along one edge counts how often it is used, less how often its reverse is. -/
theorem sum_alongEdge (u v : Nat) (edges : List (Nat × Nat)) :
    (edges.map fun e => alongEdge u v e.1 e.2).sum =
      (edges.count (u, v) : ℤ) - edges.count (v, u) := by
  induction edges with
  | nil => rfl
  | cons e rest ih =>
      rw [List.map_cons, List.sum_cons, ih, List.count_cons, List.count_cons]
      simp only [alongEdge, beq_iff_eq, Nat.cast_add, Nat.cast_ite, Nat.cast_one, Nat.cast_zero]
      ring

/-- If nothing flows around all triangles together, whatever flows, each directed edge occurs as
often as its reverse. -/
theorem count_eq_of_around {faces : List Face}
    (h : ∀ flow, Alternating flow → (faces.map (Face.around flow)).sum = 0) (u v : Nat) :
    (faces.flatMap Face.edges).count (u, v) = (faces.flatMap Face.edges).count (v, u) := by
  have hnone := h (alongEdge u v) (alternating_alongEdge u v)
  rw [sum_around, sum_alongEdge] at hnone
  exact Nat.cast_injective (sub_eq_zero.mp hnone)

/-! ## Triangles of a polygon -/

variable {slices rings : Nat}

/-- The triangle of a slice from the middle to a ring, which is the first ring in front. -/
def fanFace (slices ring s : Nat) : Face :=
  ⟨0, ringVertex slices ring s, ringVertex slices ring (s + 1)⟩

/-- The triangle of a slice of a band with an edge on its outer ring. -/
def outerFace (slices ring s : Nat) : Face :=
  ⟨ringVertex slices ring s, ringVertex slices (ring + 1) s, ringVertex slices (ring + 1) (s + 1)⟩

/-- The triangle of a slice of a band with an edge on its inner ring. -/
def innerFace (slices ring s : Nat) : Face :=
  ⟨ringVertex slices ring s, ringVertex slices (ring + 1) (s + 1), ringVertex slices ring (s + 1)⟩

/-- The triangle of a slice at the back, from the middle to the last ring. -/
def backFace (slices rings s : Nat) : Face :=
  ⟨0, ringVertex slices rings (s + 1), ringVertex slices rings s⟩

/-- The triangles of a disc: the fan in front, two for each cell between rings, and the fan at the
back. -/
theorem facesOf_polygonIndices (slices rings : Nat) :
    facesOf (polygonIndices slices rings) =
      (List.range slices).map (fanFace slices 1) ++
        ((List.range (rings - 1)).flatMap fun r => (List.range slices).flatMap fun s =>
          [outerFace slices (r + 1) s, innerFace slices (r + 1) s]) ++
        (List.range slices).map (backFace slices rings) := by
  have hfan : ∀ place : Nat → List Nat, (∀ s, (place s).length = 3) →
      3 ∣ ((List.range slices).flatMap place).length :=
    fun place h => whole_flatMap fun s _ => by rw [h]
  have hband : ∀ place : Nat → List Nat, (∀ s, (place s).length = 6) →
      3 ∣ ((List.range slices).flatMap place).length :=
    fun place h => whole_flatMap fun s _ => by rw [h]; decide
  unfold polygonIndices
  rw [facesOf_append, facesOf_append (hfan _ fun _ => rfl), facesOf_flatMap fun s _ => by simp,
    facesOf_flatMap fun r _ => hband _ fun _ => rfl, facesOf_flatMap fun s _ => by simp,
    List.map_eq_flatMap, List.map_eq_flatMap]
  · congr 2
    refine List.flatMap_congr fun r _ => ?_
    rw [facesOf_flatMap fun s _ => by simp]
    rfl
  · rw [List.length_append]
    exact Nat.dvd_add (hfan _ fun _ => rfl) (whole_flatMap fun r _ => hband _ fun _ => rfl)

/-- A disc of `rings` rings has `2 * slices * rings` triangles, six corners for each two. -/
theorem length_polygonIndices (slices : Nat) (h : 1 ≤ rings) :
    (polygonIndices slices rings).length = 6 * slices * rings := by
  obtain ⟨bands, rfl⟩ : ∃ bands, rings = bands + 1 := ⟨rings - 1, by omega⟩
  simp only [polygonIndices, Nat.add_sub_cancel, List.length_append, List.length_flatMap,
    List.length_cons, List.length_nil, List.map_const', List.length_range, List.sum_replicate,
    smul_eq_mul]
  ring

/-- The slice after the last is the first. -/
theorem ringVertex_slices (slices ring : Nat) :
    ringVertex slices ring slices = ringVertex slices ring 0 := by
  rw [ringVertex, ringVertex, Nat.mod_self, Nat.zero_mod]

/-! ## Flows around a polygon -/

/-- What flows around a ring. -/
def aroundRing (flow : Nat → Nat → ℤ) (slices ring : Nat) : ℤ :=
  ∑ s ∈ Finset.range slices, flow (ringVertex slices ring s) (ringVertex slices ring (s + 1))

section Flow

variable {flow : Nat → Nat → ℤ}

/-- What goes out along the spokes comes back along them. -/
theorem sum_around_fan (h : Alternating flow) (slices ring : Nat) :
    ∑ s ∈ Finset.range slices, (fanFace slices ring s).around flow =
      aroundRing flow slices ring := by
  have hturn : ∀ s, (fanFace slices ring s).around flow =
      (flow 0 (ringVertex slices ring s) - flow 0 (ringVertex slices ring (s + 1))) +
        flow (ringVertex slices ring s) (ringVertex slices ring (s + 1)) := by
    intro s
    rw [Face.around, fanFace, h 0]
    ring
  simp only [hturn]
  rw [Finset.sum_add_distrib, sum_range_sub' fun s => flow 0 (ringVertex slices ring s),
    ringVertex_slices, sub_self, zero_add, aroundRing]

/-- The back is a fan that is gone around the other way. -/
theorem sum_around_back (h : Alternating flow) (slices rings : Nat) :
    ∑ s ∈ Finset.range slices, (backFace slices rings s).around flow =
      -aroundRing flow slices rings := by
  have hturn : ∀ s,
      (backFace slices rings s).around flow = -(fanFace slices rings s).around flow := by
    intro s
    simp only [Face.around, backFace, fanFace]
    rw [h 0 (ringVertex slices rings s), h 0 (ringVertex slices rings (s + 1)),
      h (ringVertex slices rings s) (ringVertex slices rings (s + 1))]
    ring
  simp only [hturn]
  rw [Finset.sum_neg_distrib, sum_around_fan h]

/-- Around a band flows what flows around its outer ring, less what flows around its inner
ring. -/
theorem sum_around_band (h : Alternating flow) (slices ring : Nat) :
    ∑ s ∈ Finset.range slices,
        ((outerFace slices ring s).around flow + (innerFace slices ring s).around flow) =
      aroundRing flow slices (ring + 1) - aroundRing flow slices ring := by
  have hturn : ∀ s,
      (outerFace slices ring s).around flow + (innerFace slices ring s).around flow =
        (flow (ringVertex slices ring s) (ringVertex slices (ring + 1) s) -
          flow (ringVertex slices ring (s + 1)) (ringVertex slices (ring + 1) (s + 1))) +
          (flow (ringVertex slices (ring + 1) s) (ringVertex slices (ring + 1) (s + 1)) -
            flow (ringVertex slices ring s) (ringVertex slices ring (s + 1))) := by
    intro s
    simp only [Face.around, outerFace, innerFace]
    rw [h (ringVertex slices ring s) (ringVertex slices (ring + 1) (s + 1)),
      h (ringVertex slices ring (s + 1)) (ringVertex slices (ring + 1) (s + 1)),
      h (ringVertex slices ring s) (ringVertex slices ring (s + 1))]
    ring
  simp only [hturn]
  rw [Finset.sum_add_distrib,
    sum_range_sub' fun s => flow (ringVertex slices ring s) (ringVertex slices (ring + 1) s),
    Finset.sum_sub_distrib]
  simp only [ringVertex_slices, sub_self, zero_add, aroundRing]

/-- Nothing flows around all triangles of a polygon together. -/
theorem sum_around_polygon (h : Alternating flow) (slices : Nat) (hrings : 1 ≤ rings) :
    ((facesOf (polygonIndices slices rings)).map (Face.around flow)).sum = 0 := by
  have hfan : ∀ (n : Nat) (turn : Nat → Face),
      (((List.range n).map turn).map (Face.around flow)).sum =
        ∑ i ∈ Finset.range n, (turn i).around flow := by
    intro n turn
    rw [List.map_map]
    rfl
  have hband : ∀ (n : Nat) (turn : Nat → List Face),
      (((List.range n).flatMap turn).map (Face.around flow)).sum =
        ∑ i ∈ Finset.range n, ((turn i).map (Face.around flow)).sum := by
    intro n turn
    rw [List.map_flatMap, List.flatMap_def, List.sum_flatten, List.map_map]
    rfl
  have hpair : ∀ f g : Face, ([f, g].map (Face.around flow)).sum = f.around flow + g.around flow :=
    fun f g => by simp
  simp only [facesOf_polygonIndices, List.map_append, List.sum_append, hfan, hband, hpair,
    sum_around_fan h, sum_around_band h, sum_around_back h]
  rw [sum_range_sub fun r => aroundRing flow slices (r + 1), Nat.sub_add_cancel hrings]
  ring

end Flow

/-! ## Rings drawn cell by cell -/

/-- A stroke between two corners of a cell, each by ring and slice. -/
abbrev RingStroke (slices : Nat) := (Nat × ZMod slices) × (Nat × ZMod slices)

/-- The strokes of a cell between two rings, those of the outer triangle first. -/
def ringStrokes (slices : Nat) : List (RingStroke slices) :=
  [((0, 0), (1, 0)), ((1, 0), (1, 1)), ((1, 1), (0, 0)),
    ((0, 0), (1, 1)), ((1, 1), (0, 1)), ((0, 1), (0, 0))]

/-- The strokes of a cell on its outer ring. -/
def outerStrokes (slices : Nat) : List (RingStroke slices) := [((1, 0), (1, 1))]

/-- The strokes of a cell on its inner ring. -/
def innerStrokes (slices : Nat) : List (RingStroke slices) := [((0, 1), (0, 0))]

/-- The strokes of the cells between a ring and the next.  Within the first ring is the fan in
front, and beyond the last ring is the back. -/
def bandStrokes (slices rings ring : Nat) : List (RingStroke slices) :=
  if ring = 0 then outerStrokes slices
  else if ring = rings then innerStrokes slices
  else ringStrokes slices

/-- Between two rings each cell draws all the strokes. -/
theorem bandStrokes_between {ring : Nat} (hfirst : 0 < ring) (hlast : ring < rings) :
    bandStrokes slices rings ring = ringStrokes slices := by
  rw [bandStrokes, if_neg hfirst.ne', if_neg hlast.ne]

/-- Beyond the last ring a cell draws the inner strokes only. -/
theorem bandStrokes_last (h : 0 < rings) :
    bandStrokes slices rings rings = innerStrokes slices := by
  rw [bandStrokes, if_neg h.ne', if_pos rfl]

/-- Every band draws some of the strokes, in the same order. -/
theorem bandStrokes_sublist (slices rings ring : Nat) :
    (bandStrokes slices rings ring).Sublist (ringStrokes slices) := by
  unfold bandStrokes
  split
  · exact ((List.nil_sublist _).cons_cons _).cons _
  · split
    · exact (((((List.Sublist.refl _).cons _).cons _).cons _).cons _).cons _
    · exact .refl _

theorem one_ne_zero_of_slices (h : 2 ≤ slices) : (1 : ZMod slices) ≠ 0 := by
  rw [← Nat.cast_one, Ne, ZMod.natCast_eq_zero_iff]
  exact Nat.not_dvd_of_pos_of_lt Nat.one_pos h

/-- The strokes of a cell are distinct as soon as two slices are. -/
theorem nodup_ringStrokes (h : 2 ≤ slices) : (ringStrokes slices).Nodup := by
  have hone := one_ne_zero_of_slices h
  simp [ringStrokes, hone, hone.symm]

/-- A stroke has two ends, even around the middle. -/
theorem apart_of_mem_ringStrokes (h : 2 ≤ slices) {e : RingStroke slices}
    (he : e ∈ ringStrokes slices) : e.1 ≠ e.2 := by
  have hone := one_ne_zero_of_slices h
  simp only [ringStrokes, List.mem_cons, List.not_mem_nil, or_false] at he
  rcases he with rfl | rfl | rfl | rfl | rfl | rfl <;> simp [hone, hone.symm]

/-- With at least three slices, no two strokes go equally far in the same direction. -/
theorem distinct_ringStrokes (h : 3 ≤ slices) : Distinct (ringStrokes slices) := by
  have hone := one_ne_zero_of_slices (Nat.le_of_succ_le h)
  have htwo : (1 + 1 : ZMod slices) ≠ 0 := by
    rw [one_add_one_eq_two, ← Nat.cast_two, Ne, ZMod.natCast_eq_zero_iff]
    exact Nat.not_dvd_of_pos_of_lt Nat.two_pos (by omega)
  intro e he f hf
  simp only [ringStrokes, List.mem_cons, List.not_mem_nil, or_false] at he hf
  rcases he with rfl | rfl | rfl | rfl | rfl | rfl <;>
    rcases hf with rfl | rfl | rfl | rfl | rfl | rfl <;>
    simp [Prod.ext_iff, hone, hone.symm, htwo, htwo.symm]

/-- The number of a corner of a cell. -/
def ringNumber (p : Nat × ZMod slices) : Nat := ringVertex slices p.1 p.2.val

/-- Numbering a place on a ring by its slice modulo the count gives the vertex there. -/
theorem ringNumber_cast (slices ring s : Nat) :
    ringNumber (ring, (s : ZMod slices)) = ringVertex slices ring s := by
  rw [ringNumber, ZMod.val_natCast, ringVertex, ringVertex, Nat.mod_mod]

/-- The corners of a cell on the slice before it. -/
theorem ringNumber_near (slices ring s more : Nat) :
    ringNumber ((ring, (s : ZMod slices)) + (more, 0)) = ringVertex slices (ring + more) s := by
  rw [Prod.mk_add_mk, add_zero, ringNumber_cast]

/-- The corners of a cell on the slice after it. -/
theorem ringNumber_far (slices ring s more : Nat) :
    ringNumber ((ring, (s : ZMod slices)) + (more, 1)) =
      ringVertex slices (ring + more) (s + 1) := by
  rw [Prod.mk_add_mk, ← Nat.cast_add_one, ringNumber_cast]

/-- A vertex of a ring is in one ring and one slice. -/
theorem ringNumber_inj (hslices : 0 < slices) {p q : Nat × ZMod slices} (hp : 1 ≤ p.1)
    (hq : 1 ≤ q.1) (h : ringNumber p = ringNumber q) : p = q := by
  obtain ⟨n, rfl⟩ := Nat.exists_eq_succ_of_ne_zero hslices.ne'
  have hlt : ∀ z : ZMod (n + 1), z.val < n + 1 := ZMod.val_lt
  have hgrid : ∀ p : Nat × ZMod (n + 1), ringNumber p = gridVertex 1 n p.2.val (p.1 - 1) := by
    intro p
    rw [ringNumber, ringVertex, Nat.mod_eq_of_lt (hlt p.2), gridVertex]
  rw [hgrid, hgrid, gridVertex_inj (Nat.le_of_lt_succ (hlt _)) (Nat.le_of_lt_succ (hlt _))] at h
  exact Prod.ext (by omega) (ZMod.val_injective _ h.1)

/-- A vertex on a ring belongs to one ring, and to one slice modulo the count. -/
theorem ringVertex_inj {ring ring' s s' : Nat} (hslices : 0 < slices) (hring : 1 ≤ ring)
    (hring' : 1 ≤ ring') (h : ringVertex slices ring s = ringVertex slices ring' s') :
    ring = ring' ∧ (s : ZMod slices) = s' := by
  rw [← ringNumber_cast, ← ringNumber_cast] at h
  exact Prod.mk.inj (ringNumber_inj hslices hring hring' h)

/-- No vertex on a ring is the center. -/
theorem ringVertex_ne_zero (slices ring s : Nat) : ringVertex slices ring s ≠ 0 := by
  rw [ringVertex]
  omega

/-- Slices within bounds are told apart by where they are around the middle. -/
theorem cast_injOn {s s' : Nat} (hs : s ∈ List.range slices) (hs' : s' ∈ List.range slices)
    (h : (s : ZMod slices) = s') : s = s' := by
  rw [ZMod.natCast_eq_natCast_iff', Nat.mod_eq_of_lt (List.mem_range.mp hs),
    Nat.mod_eq_of_lt (List.mem_range.mp hs')] at h
  exact h

/-- The cells of all rings. -/
def ringCells (slices rings : Nat) : List (Nat × ZMod slices) :=
  (List.range (rings + 1) ×ˢ List.range slices).map fun cell => (cell.1, (cell.2 : ZMod slices))

theorem nodup_ringCells (slices rings : Nat) : (ringCells slices rings).Nodup := by
  refine (List.nodup_range.product List.nodup_range).map_on ?_
  rintro ⟨ring, s⟩ hcell ⟨ring', s'⟩ hcell' h
  obtain ⟨rfl, hs⟩ := Prod.mk.inj h
  rw [cast_injOn (List.pair_mem_product.mp hcell).2 (List.pair_mem_product.mp hcell').2 hs]

/-- The edges that the cells draw, by ring and slice. -/
def ringDrawn (slices rings : Nat) : List (RingStroke slices) :=
  (ringCells slices rings).flatMap fun cell =>
    (bandStrokes slices rings cell.1).map (drawn cell)

/-- A directed edge by the numbers of its ends. -/
def ringEdge (e : RingStroke slices) : Nat × Nat := (ringNumber e.1, ringNumber e.2)

/-- No edge that is drawn starts or ends in the middle. -/
theorem one_le_of_mem_ringDrawn {e : RingStroke slices} (he : e ∈ ringDrawn slices rings) :
    1 ≤ e.1.1 ∧ 1 ≤ e.2.1 := by
  obtain ⟨⟨ring, z⟩, -, hs⟩ := List.mem_flatMap.mp he
  obtain ⟨s, hs, rfl⟩ := List.mem_map.mp hs
  rcases Nat.eq_zero_or_pos ring with rfl | hpos
  · rw [List.mem_singleton.mp hs]
    exact ⟨Nat.le_refl 1, Nat.le_refl 1⟩
  · exact ⟨Nat.le_add_right_of_le hpos, Nat.le_add_right_of_le hpos⟩

/-- With three slices or more no stroke is drawn along an edge twice. -/
theorem nodup_ringDrawn (h : 3 ≤ slices) (rings : Nat) :
    ((ringDrawn slices rings).map ringEdge).Nodup := by
  have hstrokes := nodup_ringStrokes (Nat.le_of_succ_le h)
  refine (nodup_drawn hstrokes (distinct_ringStrokes h) (nodup_ringCells slices rings)
    fun cell _ => bandStrokes_sublist slices rings cell.1).map_on ?_
  intro e he f hf heq
  obtain ⟨hstart, hend⟩ := Prod.mk.inj heq
  obtain ⟨he₁, he₂⟩ := one_le_of_mem_ringDrawn he
  obtain ⟨hf₁, hf₂⟩ := one_le_of_mem_ringDrawn hf
  exact Prod.ext (ringNumber_inj (by omega) he₁ hf₁ hstart) (ringNumber_inj (by omega) he₂ hf₂ hend)

/-! ## Spokes -/

/-- The directed edges of a fan between the middle and a ring, out and back in each slice. -/
def fanSpokes (slices ring out back : Nat) : List (Nat × Nat) :=
  (List.range slices).flatMap fun s =>
    [(0, ringVertex slices ring (s + out)), (ringVertex slices ring (s + back), 0)]

/-- The spokes of a fan run between the center and its ring. -/
theorem mem_fanSpokes {ring out back : Nat} {e : Nat × Nat} :
    e ∈ fanSpokes slices ring out back ↔ ∃ s < slices,
      e = (0, ringVertex slices ring (s + out)) ∨ e = (ringVertex slices ring (s + back), 0) := by
  simp only [fanSpokes, List.mem_flatMap, List.mem_range, List.mem_cons, List.not_mem_nil,
    or_false]

/-- A fan uses each of its spokes once. -/
theorem nodup_fanSpokes {ring : Nat} (hslices : 0 < slices) (hring : 1 ≤ ring) (out back : Nat) :
    (fanSpokes slices ring out back).Nodup := by
  have hzero := ringVertex_ne_zero slices ring
  have hslice : ∀ {s s' more : Nat}, s ∈ List.range slices → s' ∈ List.range slices →
      ringVertex slices ring (s + more) = ringVertex slices ring (s' + more) → s = s' := by
    intro s s' more hs hs' h
    have hcast := (ringVertex_inj hslices hring hring h).2
    rw [Nat.cast_add, Nat.cast_add] at hcast
    exact cast_injOn hs hs' (add_right_cancel hcast)
  refine List.nodup_flatMap.mpr ⟨?_, ?_⟩
  · intro s _
    simp [(hzero (s + back)).symm]
  · refine List.nodup_range.imp_of_mem ?_
    intro s s' hs hs' hne e he he'
    simp only [List.mem_cons, List.not_mem_nil, or_false] at he he'
    rcases he with rfl | rfl <;> rcases he' with h | h
    · exact hne (hslice hs hs' (Prod.mk.inj h).2)
    · exact hzero _ (Prod.mk.inj h).2
    · exact hzero _ (Prod.mk.inj h).1
    · exact hne (hslice hs hs' (Prod.mk.inj h).1)

/-- Fans to different rings have no directed edge in common. -/
theorem disjoint_fanSpokes {ring ring' : Nat} (hslices : 0 < slices) (hring : 1 ≤ ring)
    (hring' : 1 ≤ ring') (hne : ring ≠ ring') (out back out' back' : Nat) :
    (fanSpokes slices ring out back).Disjoint (fanSpokes slices ring' out' back') := by
  intro e he he'
  obtain ⟨s, -, he⟩ := mem_fanSpokes.mp he
  obtain ⟨s', -, he'⟩ := mem_fanSpokes.mp he'
  rcases he with rfl | rfl <;> rcases he' with h | h
  · exact hne (ringVertex_inj hslices hring hring' (Prod.mk.inj h).2).1
  · exact ringVertex_ne_zero _ _ _ (Prod.mk.inj h).2
  · exact ringVertex_ne_zero _ _ _ (Prod.mk.inj h).1
  · exact hne (ringVertex_inj hslices hring hring' (Prod.mk.inj h).1).1

/-- The spokes of the fan in front and of the fan at the back. -/
def spokes (slices rings : Nat) : List (Nat × Nat) :=
  fanSpokes slices 1 0 1 ++ fanSpokes slices rings 1 0

/-- A spoke has one end in the middle and the other on a ring. -/
theorem ends_of_mem_spokes {e : Nat × Nat} (he : e ∈ spokes slices rings) :
    (e.1 = 0 ∧ e.2 ≠ 0) ∨ (e.1 ≠ 0 ∧ e.2 = 0) := by
  rcases List.mem_append.mp he with he | he
  all_goals
    obtain ⟨s, -, rfl | rfl⟩ := mem_fanSpokes.mp he
    · exact Or.inl ⟨rfl, ringVertex_ne_zero _ _ _⟩
    · exact Or.inr ⟨ringVertex_ne_zero _ _ _, rfl⟩

/-- No edge that cells draw has an end in the middle. -/
theorem spokes_disjoint (slices rings : Nat) :
    (spokes slices rings).Disjoint ((ringDrawn slices rings).map ringEdge) := by
  intro e he hdrawn
  obtain ⟨d, -, rfl⟩ := List.mem_map.mp hdrawn
  rcases ends_of_mem_spokes he with ⟨hzero, -⟩ | ⟨-, hzero⟩
  · exact ringVertex_ne_zero _ _ _ hzero
  · exact ringVertex_ne_zero _ _ _ hzero

/-! ## Edges of a polygon -/

/-- What the cells draw is the first ring forwards, the bands, and the last ring backwards. -/
theorem map_ringEdge_ringDrawn (slices bands : Nat) :
    (ringDrawn slices (bands + 1)).map ringEdge =
      ((List.range slices).map fun s => (ringVertex slices 1 s, ringVertex slices 1 (s + 1))) ++
        ((List.range bands).flatMap fun r => (List.range slices).flatMap fun s =>
          (outerFace slices (r + 1) s).edges ++ (innerFace slices (r + 1) s).edges) ++
        (List.range slices).map fun s =>
          (ringVertex slices (bands + 1) (s + 1), ringVertex slices (bands + 1) s) := by
  have hloop : (ringDrawn slices (bands + 1)).map ringEdge =
      (List.range (bands + 2)).flatMap fun ring => (List.range slices).flatMap fun s : Nat =>
        ((bandStrokes slices (bands + 1) ring).map (drawn (ring, (s : ZMod slices)))).map
          ringEdge := by
    simp only [ringDrawn, ringCells, SProd.sprod, List.product, List.map_flatMap,
      List.flatMap_assoc, List.flatMap_map]
  rw [hloop, List.range_succ, List.range_succ_eq_map, List.flatMap_append, List.flatMap_cons,
    List.flatMap_map, List.flatMap_singleton, bandStrokes_last (Nat.succ_pos bands),
    List.map_eq_flatMap, List.map_eq_flatMap]
  congr 1
  · congr 1
    · refine List.flatMap_congr fun s _ => ?_
      simp only [bandStrokes, if_pos, outerStrokes, List.map_cons, List.map_nil, ringEdge, drawn,
        ringNumber_near, ringNumber_far, Nat.zero_add]
    · refine List.flatMap_congr fun r hr => List.flatMap_congr fun s _ => ?_
      have hlt := List.mem_range.mp hr
      rw [bandStrokes_between (Nat.succ_pos r) (by omega)]
      simp only [ringStrokes, List.map_cons, List.map_nil, ringEdge, drawn, ringNumber_near,
        ringNumber_far, add_zero, outerFace, innerFace, Face.edges, List.cons_append,
        List.nil_append]
  · refine List.flatMap_congr fun s _ => ?_
    simp only [innerStrokes, List.map_cons, List.map_nil, ringEdge, drawn, ringNumber_near,
      ringNumber_far, add_zero]

/-- The edges of a fan are those along its spokes and those along its ring. -/
theorem perm_fan (slices : Nat) (out rim back : Nat → Nat × Nat) :
    ((List.range slices).flatMap fun s => [out s, rim s, back s]).Perm
      (((List.range slices).flatMap fun s => [out s, back s]) ++ (List.range slices).map rim) := by
  rw [List.map_eq_flatMap]
  refine .trans (.flatMap_left _ fun s _ => ?_) (List.flatMap_append_perm _ _ _).symm
  exact (List.Perm.swap _ _ _).cons _

/-- The directed edges of a polygon are its spokes and what the cells of its rings draw. -/
theorem perm_edgesOf_polygonIndices (slices : Nat) (hrings : 1 ≤ rings) :
    (edgesOf (polygonIndices slices rings)).Perm
      (spokes slices rings ++ (ringDrawn slices rings).map ringEdge) := by
  obtain ⟨bands, rfl⟩ : ∃ bands, rings = bands + 1 := ⟨rings - 1, by omega⟩
  have hfront : ((List.range slices).flatMap fun s => (fanFace slices 1 s).edges).Perm
      (fanSpokes slices 1 0 1 ++ (List.range slices).map fun s =>
        (ringVertex slices 1 s, ringVertex slices 1 (s + 1))) := perm_fan slices _ _ _
  have hback : ((List.range slices).flatMap fun s => (backFace slices (bands + 1) s).edges).Perm
      (fanSpokes slices (bands + 1) 1 0 ++ (List.range slices).map fun s =>
        (ringVertex slices (bands + 1) (s + 1), ringVertex slices (bands + 1) s)) :=
    perm_fan slices _ _ _
  rw [edgesOf, facesOf_polygonIndices, List.flatMap_append, List.flatMap_append,
    List.flatMap_map, List.flatMap_map, map_ringEdge_ringDrawn, spokes]
  simp only [Nat.add_sub_cancel, List.flatMap_assoc, List.flatMap_cons, List.flatMap_nil,
    List.append_nil]
  refine ((hfront.append_right _).append hback).trans (List.perm_iff_count.mpr fun e => ?_)
  simp only [List.count_append]
  omega

/-- With at least two rings, the fans have different spokes. -/
theorem nodup_edgesOf_polygonIndices (hslices : 3 ≤ slices) (hrings : 2 ≤ rings) :
    (edgesOf (polygonIndices slices rings)).Nodup := by
  have hpos : 0 < slices := by omega
  have hfirst : 1 ≤ rings := by omega
  have hspokes : (spokes slices rings).Nodup :=
    (nodup_fanSpokes hpos (Nat.le_refl 1) 0 1).append (nodup_fanSpokes hpos hfirst 1 0)
      (disjoint_fanSpokes hpos (Nat.le_refl 1) hfirst (by omega) 0 1 1 0)
  rw [(perm_edgesOf_polygonIndices slices hfirst).nodup_iff]
  exact hspokes.append (nodup_ringDrawn hslices rings) (spokes_disjoint slices rings)

-- One ring alone is not enough: both fans have its spokes.
example : (edgesOf (polygonIndices 3 1)).count (0, 1) = 2 := by decide

/-- The triangles of a disc with two slices or more have three distinct corners. -/
theorem proper_of_mem_polygon (hslices : 2 ≤ slices) (hrings : 1 ≤ rings) :
    ∀ f ∈ facesOf (polygonIndices slices rings), f.Proper := by
  refine proper_of_edgesOf fun e he => ?_
  rw [(perm_edgesOf_polygonIndices slices hrings).mem_iff, List.mem_append] at he
  rcases he with hspoke | hdrawn
  · rcases ends_of_mem_spokes hspoke with ⟨hzero, hring⟩ | ⟨hring, hzero⟩
    · exact hzero ▸ hring.symm
    · exact hzero ▸ hring
  · obtain ⟨d, hd, rfl⟩ := List.mem_map.mp hdrawn
    obtain ⟨hstart, hend⟩ := one_le_of_mem_ringDrawn hd
    intro heq
    have hsame := ringNumber_inj (by omega) hstart hend heq
    obtain ⟨cell, -, hcell⟩ := List.mem_flatMap.mp hd
    obtain ⟨e, he, rfl⟩ := List.mem_map.mp hcell
    exact apart_of_mem_ringStrokes hslices ((bandStrokes_sublist ..).subset he)
      (add_left_cancel hsame)

end Shape

namespace Figure

open Shape

/-- A polygon that is built is a closed surface.  With `S` slices, at least three, and `K` rings, at
least one, it has `1 + S * K` vertices and `6 * S * K` indices.  No triangle has a corner twice,
each directed edge occurs as often as its reverse, and with two rings or more none that occurs
does so twice. -/
theorem closed_of_build {α : Type} [Angular α] {g : Polygon α} {s : Shape α}
    (h : (polygon g).build? = some (.ok s)) :
    s.mesh.vertexCount = 1 + max g.slices.toNat 3 * max g.rings.toNat 1 ∧
      s.mesh.indices.size = 6 * max g.slices.toNat 3 * max g.rings.toNat 1 ∧
      (∀ f ∈ s.mesh.faces, f.Proper) ∧
      (∀ u v, s.mesh.edges.count (u, v) = s.mesh.edges.count (v, u)) ∧
      (2 ≤ max g.rings.toNat 1 → ∀ e ∈ s.mesh.edges, s.mesh.edges.count e = 1) := by
  have hslices : 3 ≤ max g.slices.toNat 3 := Nat.le_max_right ..
  have hrings : 1 ≤ max g.rings.toNat 1 := Nat.le_max_right ..
  cases shape?_of_build? h
  refine ⟨?vertices, length_polygonIndices _ hrings, ?proper, ?closed, ?once⟩
  case vertices => rw [vertexCount_ofPolygon, Nat.add_comm]
  case proper => exact proper_of_mem_polygon (by omega) hrings
  case closed => exact count_eq_of_around fun _ hflow => sum_around_polygon hflow _ hrings
  case once =>
    intro htwo e he
    exact List.count_eq_one_of_mem (nodup_edgesOf_polygonIndices hslices htwo) he

/-- A polygon of two rings, with fewer slices than it is drawn with. -/
def rosette : Polygon Float32 :=
  { radius := 1, rings := 2, slices := 2, inner := .white, outer := .black }

/-- A hexagon of one ring is closed, and uses the edge from the center to the first vertex once. -/
theorem closed_rosette :
    (polygon rosette).build? = some (.ok (ofPolygon rosette)) ∧
      (ofPolygon rosette).mesh.vertexCount = 7 ∧ (ofPolygon rosette).mesh.indices.size = 36 ∧
      (0, 1) ∈ (ofPolygon rosette).mesh.edges ∧
      (ofPolygon rosette).mesh.edges.count (0, 1) = 1 := by
  have hbuild : (polygon rosette).build? = some (.ok (ofPolygon rosette)) := if_neg (by decide)
  have hspoke : (0, 1) ∈ (ofPolygon rosette).mesh.edges := List.mem_cons_self ..
  obtain ⟨hvertices, hindices, -, -, honce⟩ := closed_of_build hbuild
  exact ⟨hbuild, hvertices, hindices, hspoke, honce (by decide) _ hspoke⟩

end Figure

end Scenery
