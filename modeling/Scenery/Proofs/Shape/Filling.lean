import Scenery.Proofs.Shape.Panel

/-!
# How boxes and rectangles fill their bounds

A box and a rectangle are declared by two corners.  The mesh is built around its own origin and
comes with the place of that origin, so where its vertices are is the sum of the two.

A bounding box starts from the infinities, and the numbers of a field have none.  So it is taken
of exact numbers, of a figure that is declared with rational ones (`Box.exact`).  All vertices
are rational then, the ones that the same figure has over the rational numbers
(`Shape.reads_ofBox`).  Moving by a rational vector keeps exact numbers in order, the infinities
included, so it can be moved past the box around some points (`Bounds.shifted_enclosing`).

The corners of a box are among the vertices of its panels, and the box holds all of these.  So it
is the box around them.  `Shape.fills_corners` says so of the mesh, together with where in the
box its vertices are.
-/

namespace Scenery

open Exact

/-! ## Rational vectors among exact ones -/

/-- A rational vector as one of exact numbers. -/
def Vec2.exact (v : Vec2 ℚ) : Vec2 Exact := ⟨num v.x, num v.y⟩

/-- A rational vector as one of exact numbers. -/
def Vec3.exact (v : Vec3 ℚ) : Vec3 Exact := ⟨num v.x, num v.y, num v.z⟩

/-- A rational box as one of exact numbers. -/
def Bounds.exact (b : Bounds ℚ) : Bounds Exact := ⟨b.low.exact, b.high.exact⟩

/-- A box declared with rational numbers. -/
def Box.exact (g : Box ℚ) : Box Exact := { g with first := g.first.exact, second := g.second.exact }

/-- A rectangle declared with rational numbers. -/
def Rectangle.exact (g : Rectangle ℚ) : Rectangle Exact :=
  { g with first := g.first.exact, second := g.second.exact }

/-- A box moved along a vector. -/
def Bounds.shifted {α : Type} [Scalar α] (b : Bounds α) (t : Vec3 α) : Bounds α :=
  ⟨b.low + t, b.high + t⟩

namespace Exact

theorem monotone_num : Monotone num := fun _ _ h => num_le_num.mpr h

theorem monotone_add_num (t : ℚ) : Monotone (· + num t : Exact → Exact) := by
  intro a b h
  cases a with
  | below => exact below_le _
  | num p =>
      cases b with
      | below => cases h.antisymm (below_le _)
      | num q => exact num_le_num.mpr (add_le_add_left (num_le_num.mp h) t)
      | above => exact le_above _
  | above =>
      obtain rfl := (le_above b).antisymm h
      exact le_rfl

theorem min_add_num (a b : Exact) (t : ℚ) : min a b + num t = min (a + num t) (b + num t) :=
  (monotone_add_num t).map_min

theorem max_add_num (a b : Exact) (t : ℚ) : max a b + num t = max (a + num t) (b + num t) :=
  (monotone_add_num t).map_max

end Exact

variable [Approximation]

theorem Exact.abs_num (q : ℚ) : Scalar.abs (num q) = num |q| :=
  (monotone_num.map_max (a := q) (b := -q)).symm

theorem Bounds.exact_ofCorners (a b : Vec3 ℚ) :
    (Bounds.ofCorners a b).exact = .ofCorners a.exact b.exact := by
  simp only [ofCorners, exact, Vec3.exact, Vec3.lesser_eq_min, Vec3.greater_eq_max,
    Vec3.lesser_eq, Vec3.greater_eq, monotone_num.map_min, monotone_num.map_max]

theorem Vec3.exact_abs (v : Vec3 ℚ) : v.exact.abs = v.abs.exact := by
  simp only [Vec3.abs, Vec3.exact, Exact.abs_num]
  rfl

theorem Vec2.exact_abs (v : Vec2 ℚ) : v.exact.abs = v.abs.exact := by
  simp only [Vec2.abs, Vec2.exact, Exact.abs_num]
  rfl

namespace Bounds

theorem holds_exact {b : Bounds ℚ} {p : Vec3 ℚ} (h : p ∈ b.points) : b.exact.Holds p.exact := by
  obtain ⟨hx, hy, hz⟩ := h
  exact ⟨⟨num_le_num.mpr hx.1, num_le_num.mpr hy.1, num_le_num.mpr hz.1⟩,
    num_le_num.mpr hx.2, num_le_num.mpr hy.2, num_le_num.mpr hz.2⟩

theorem shifted_grow (b : Bounds Exact) (p : Vec3 Exact) (t : Vec3 ℚ) :
    (b.grow p).shifted t.exact = (b.shifted t.exact).grow (p + t.exact) := by
  rw [grow, grow, shifted, Vec3.lesser_eq, Vec3.greater_eq, Vec3.lesser_eq, Vec3.greater_eq]
  exact Bounds.ext (Vec3.ext (min_add_num ..) (min_add_num ..) (min_add_num ..))
    (Vec3.ext (max_add_num ..) (max_add_num ..) (max_add_num ..))

/-- The box around some points, moved, is the box around the moved points. -/
theorem shifted_enclosing (points : List (Vec3 Exact)) (t : Vec3 ℚ) :
    (enclosing points).shifted t.exact = enclosing (points.map (· + t.exact)) := by
  have hfold : ∀ b : Bounds Exact, (points.foldl grow b).shifted t.exact =
      (points.map (· + t.exact)).foldl grow (b.shifted t.exact) := by
    induction points with
    | nil => exact fun b => rfl
    | cons p points ih =>
        intro b
        rw [List.foldl_cons, ih, shifted_grow, List.map_cons, List.foldl_cons]
  -- the infinities stay where they are
  have hempty : (empty : Bounds Exact).shifted t.exact = empty := rfl
  rw [enclosing, hfold, hempty, enclosing]

end Bounds

namespace Shape

/-! ## Meshes over rational numbers -/

/-- A shape of exact numbers has the vertices of one of rational numbers. -/
structure Reads (s : Shape Exact) (t : Shape ℚ) : Prop where
  positions : s.mesh.positions.toList = t.mesh.positions.toList.map Vec3.exact
  offset : s.offset = t.offset.exact
  bounds : s.mesh.bounds = .enclosing s.mesh.positions.toList

/-- The sides of a box over exact numbers are those over rational ones. -/
theorem reads_boxSides (g : Box ℚ) :
    List.Forall₂ (fun s t => gridOf s.cols s.rows s.position =
      (gridOf t.cols t.rows t.position).map Vec3.exact) (boxSides g.exact) (boxSides g) := by
  have hsize : (g.exact.second - g.exact.first).abs = (g.second - g.first).abs.exact :=
    Vec3.exact_abs (g.second - g.first)
  simp only [boxSides, hsize, gridOf_map]
  exact .cons rfl <| .cons rfl <| .cons rfl <| .cons rfl <| .cons rfl <| .cons rfl .nil

/-- A box over exact numbers is read as one over rational numbers. -/
theorem reads_ofBox (g : Box ℚ) : (ofBox g.exact).Reads (ofBox g) := by
  refine ⟨?_, rfl, rfl⟩
  simp only [ofBox, Mesh.withUvs, Mesh.ofVertices, List.map_flatMap]
  exact flatMap_eq_of_forall₂ (reads_boxSides g)

/-- A rectangle over exact numbers is read as one over rational numbers. -/
theorem reads_ofRectangle (g : Rectangle ℚ) : (ofRectangle g.exact).Reads (ofRectangle g) := by
  refine ⟨?_, rfl, rfl⟩
  have hsize : (g.exact.second - g.exact.first).abs = (g.second - g.first).abs.exact :=
    Vec2.exact_abs (g.second - g.first)
  simp only [ofRectangle, Mesh.withUvs, Mesh.ofVertices, hsize, gridOf_map]
  rfl

/-! ## The box around a mesh -/

/-- A shape fills the box between two corners with the vertices of some panels. -/
structure Fills (s : Shape Exact) (a b : Vec3 ℚ) (panels : List (Panel ℚ)) : Prop where
  /-- The bounds of the mesh, where it sits, are the box. -/
  bounds : s.mesh.bounds.shifted s.offset = .ofCorners a.exact b.exact
  /-- The vertices are those of the panels, one panel after another. -/
  vertices : s.mesh.positions.toList.map (· + s.offset) =
    panels.flatMap fun f => f.points.map Vec3.exact
  /-- The panels are faces of the box. -/
  covers : ∀ f ∈ panels, f.Covers (.ofCorners a b)
  /-- The vertices are on the surface of the box. -/
  surface : ∀ p ∈ s.mesh.positions, ∃ q ∈ (Bounds.ofCorners a b).surface, p + s.offset = q.exact

/-- A shape whose vertices are the points of panels that cover a box fills the box. -/
theorem Reads.fills {s : Shape Exact} {t : Shape ℚ} (h : s.Reads t) {a b : Vec3 ℚ}
    {panels : List (Panel ℚ)}
    (hvertices : t.mesh.positions.toList.map (· + t.offset) = panels.flatMap Panel.points)
    (hcovers : ∀ f ∈ panels, f.Covers (.ofCorners a b))
    (hlow : (Bounds.ofCorners a b).low ∈ panels.flatMap Panel.points)
    (hhigh : (Bounds.ofCorners a b).high ∈ panels.flatMap Panel.points) :
    s.Fills a b panels := by
  have hpositions : s.mesh.positions.toList.map (· + s.offset) =
      (panels.flatMap Panel.points).map Vec3.exact := by
    rw [← hvertices, h.positions, h.offset, List.map_map, List.map_map]
    rfl
  have hsurface : ∀ q ∈ panels.flatMap Panel.points, q ∈ (Bounds.ofCorners a b).surface := by
    intro q hq
    obtain ⟨f, hf, hq⟩ := List.mem_flatMap.mp hq
    refine (hcovers f hf).face.mem_surface ?_ ?_ ?_ hq
    all_goals
      simp only [Bounds.ofCorners, Vec3.lesser_eq_min, Vec3.greater_eq_max]
      exact min_le_max
  constructor
  case bounds =>
    rw [h.bounds, h.offset, Bounds.shifted_enclosing, ← h.offset, hpositions,
      ← Bounds.exact_ofCorners]
    refine Bounds.enclosing_eq ?_ (List.mem_map_of_mem hlow) (List.mem_map_of_mem hhigh)
    intro p hp
    obtain ⟨q, hq, rfl⟩ := List.mem_map.mp hp
    exact Bounds.holds_exact (hsurface q hq).1
  case vertices => rw [hpositions, List.map_flatMap]
  case covers => exact hcovers
  case surface =>
    intro p hp
    have hmem := List.mem_map_of_mem (f := (· + s.offset)) (Array.mem_toList_iff.mpr hp)
    rw [hpositions] at hmem
    obtain ⟨q, hq, heq⟩ := List.mem_map.mp hmem
    exact ⟨q, hsurface q hq, heq.symm⟩

/-- A box and a rectangle, declared by any two corners and with any numbers of segments, fill
the box between the corners with the vertices of its faces, a rectangle with those of the front
alone. -/
theorem fills_corners :
    (∀ g : Box ℚ, (ofBox g.exact).Fills g.first g.second g.panels) ∧
      ∀ g : Rectangle ℚ, (ofRectangle g.exact).Fills ⟨g.first.x, g.first.y, 0⟩
        ⟨g.second.x, g.second.y, 0⟩ [g.panel] := by
  constructor
  · intro g
    have hcovers : ∀ f ∈ g.panels, f.Covers g.bounds := fun f hf => Box.covers_of_mem_panels hf
    obtain ⟨left, hleft, hlow⟩ := g.exists_down_eq
    obtain ⟨right, hright, hhigh⟩ := g.exists_origin_eq
    refine (reads_ofBox g).fills (positions_ofBox g) hcovers ?_ ?_
    · exact List.mem_flatMap.mpr ⟨left, hleft, hlow ▸ (hcovers left hleft).down_mem⟩
    · exact List.mem_flatMap.mpr ⟨right, hright, hhigh ▸ (hcovers right hright).origin_mem⟩
  · intro g
    have hcovers : g.panel.Covers g.bounds := g.covers_panel
    have hvertices := positions_ofRectangle g
    rw [← List.flatMap_singleton Panel.points g.panel] at hvertices
    refine (reads_ofRectangle g).fills hvertices (List.forall_mem_singleton.mpr hcovers) ?_ ?_
    · rw [List.flatMap_singleton]
      exact g.down_panel ▸ hcovers.down_mem
    · rw [List.flatMap_singleton]
      exact g.across_panel ▸ hcovers.across_mem

end Shape

end Scenery
