import Scenery.Proofs.Bounds
import Scenery.Proofs.Vector
import Scenery.Shape.Box
import Scenery.Shape.Rectangle

/-!
# Panels

A panel is a rectangle in space with a grid over it, given by three of its corners and the
number of segments along both of its edges.  `Bounds.panels` are the six faces of a box,
named by the corners of the box alone.  Their corners are corners of the box, and so all
their vertices are on its surface (`Panel.IsFace.mem_surface`).

A side of a box is built the other way around: from its extents, half of which are taken off
again, with the signs and the places of its axes, and around the middle of the box instead of
where it is.  Over the numbers of a field this comes to the same (`Shape.laidOver_boxSides`),
since the extent of a box is the difference of its corners and its middle is half of their
sum, whichever corners are declared.  The same holds of a rectangle, which is the front of a
box without depth (`Shape.positions_ofRectangle`).
-/

namespace Scenery

variable {α : Type}

/-- A rectangle in space with a grid over it. -/
structure Panel (α : Type) where
  /-- The corner of the first vertex. -/
  origin : Vec3 α
  /-- The corner at the end of the first row. -/
  across : Vec3 α
  /-- The corner at the end of the first column. -/
  down : Vec3 α
  /-- Segments along each row. -/
  cols : Nat
  /-- Segments along each column. -/
  rows : Nat

namespace Bounds

/-- The face of a box that looks along the third axis. -/
def front (b : Bounds α) (nx ny : Nat) : Panel α where
  origin := ⟨b.low.x, b.high.y, b.high.z⟩
  across := ⟨b.high.x, b.high.y, b.high.z⟩
  down := ⟨b.low.x, b.low.y, b.high.z⟩
  cols := nx
  rows := ny

/-- The faces of a box as they are seen from outside: right and left, top and bottom, front
and back. -/
def panels (b : Bounds α) (nx ny nz : Nat) : List (Panel α) :=
  let l := b.low
  let h := b.high
  [⟨⟨h.x, h.y, h.z⟩, ⟨h.x, h.y, l.z⟩, ⟨h.x, l.y, h.z⟩, nz, ny⟩,
    ⟨⟨l.x, h.y, l.z⟩, ⟨l.x, h.y, h.z⟩, ⟨l.x, l.y, l.z⟩, nz, ny⟩,
    ⟨⟨l.x, h.y, l.z⟩, ⟨h.x, h.y, l.z⟩, ⟨l.x, h.y, h.z⟩, nx, nz⟩,
    ⟨⟨l.x, l.y, h.z⟩, ⟨h.x, l.y, h.z⟩, ⟨l.x, l.y, l.z⟩, nx, nz⟩,
    b.front nx ny,
    ⟨⟨h.x, h.y, l.z⟩, ⟨l.x, h.y, l.z⟩, ⟨h.x, l.y, l.z⟩, nx, ny⟩]

end Bounds

namespace Panel

/-- Two numbers are the ends of an interval. -/
def Ends (low high s t : α) : Prop := (s = low ∧ t = high) ∨ (s = high ∧ t = low)

/-- A panel is one of the faces of a box, with both edges along axes. -/
structure IsFace (b : Bounds α) (f : Panel α) : Prop where
  origin : f.origin ∈ b.corners
  across : f.across ∈ b.corners
  down : f.down ∈ b.corners
  /-- Along no axis both edges change. -/
  straight : (f.across.x = f.origin.x ∨ f.down.x = f.origin.x) ∧
    (f.across.y = f.origin.y ∨ f.down.y = f.origin.y) ∧
    (f.across.z = f.origin.z ∨ f.down.z = f.origin.z)
  /-- Along one of the axes nothing changes.  Along the others the edges end at different ends
  of the box. -/
  spans : ((f.across.x = f.origin.x ∧ f.down.x = f.origin.x) ∧
      Ends b.low.y b.high.y f.across.y f.down.y ∧ Ends b.low.z b.high.z f.across.z f.down.z) ∨
    ((f.across.y = f.origin.y ∧ f.down.y = f.origin.y) ∧
      Ends b.low.x b.high.x f.across.x f.down.x ∧ Ends b.low.z b.high.z f.across.z f.down.z) ∨
    ((f.across.z = f.origin.z ∧ f.down.z = f.origin.z) ∧
      Ends b.low.x b.high.x f.across.x f.down.x ∧ Ends b.low.y b.high.y f.across.y f.down.y)

/-- The front panel is a face of its box. -/
theorem isFace_front (b : Bounds α) (nx ny : Nat) : (b.front nx ny).IsFace b := by
  constructor <;> simp [Bounds.front, Bounds.mem_corners, Ends]

/-- Each of the six panels is a face of the box. -/
theorem isFace_of_mem_panels {b : Bounds α} {nx ny nz : Nat} {f : Panel α}
    (h : f ∈ b.panels nx ny nz) : f.IsFace b := by
  simp only [Bounds.panels, List.mem_cons, List.not_mem_nil, or_false] at h
  rcases h with rfl | rfl | rfl | rfl | rfl | rfl
  case inr.inr.inr.inr.inl => exact isFace_front b nx ny
  all_goals constructor <;> simp [Bounds.mem_corners, Ends]

end Panel

/-! ## Vertices of panels -/

variable [OrderedFieldScalar α]

/-- The points on the surface of a box. -/
def Bounds.surface (b : Bounds α) : Set (Vec3 α) :=
  {p | p ∈ b.points ∧ ((p.x = b.low.x ∨ p.x = b.high.x) ∨ (p.y = b.low.y ∨ p.y = b.high.y) ∨
    (p.z = b.low.z ∨ p.z = b.high.z))}

namespace Panel

/-- The vertex of a row and a column, as far along each edge as its number says. -/
def point (f : Panel α) (col row : Nat) : Vec3 α :=
  f.origin + ((col : α) / f.cols) • (f.across - f.origin) +
    ((row : α) / f.rows) • (f.down - f.origin)

/-- The vertices of a panel, row by row. -/
def points (f : Panel α) : List (Vec3 α) := Shape.gridOf f.cols f.rows f.point

/-- A panel has one point more than it has cells, each way. -/
theorem length_points (f : Panel α) : f.points.length = (f.cols + 1) * (f.rows + 1) :=
  Shape.gridOf_length f.cols f.rows f.point

theorem point_mem {f : Panel α} {col row : Nat} (hcol : col ≤ f.cols) (hrow : row ≤ f.rows) :
    f.point col row ∈ f.points := by
  simp only [points, Shape.gridOf, List.mem_flatMap, List.mem_map, List.mem_range,
    Nat.lt_succ_iff]
  exact ⟨row, hrow, col, hcol, rfl⟩

theorem point_origin (f : Panel α) : f.point 0 0 = f.origin := by
  simp [point]

theorem point_across {f : Panel α} (hcols : f.cols ≠ 0) : f.point f.cols 0 = f.across := by
  simp [point, div_self (Nat.cast_ne_zero.mpr hcols : (f.cols : α) ≠ 0)]

theorem point_down {f : Panel α} (hrows : f.rows ≠ 0) : f.point 0 f.rows = f.down := by
  simp [point, div_self (Nat.cast_ne_zero.mpr hrows : (f.rows : α) ≠ 0)]

/-- The points of a panel are evenly spaced from its origin, both ways. -/
theorem point_eq (f : Panel α) (col row : Nat) :
    f.point col row =
      ⟨f.origin.x + (f.across.x - f.origin.x) * (col / f.cols) +
          (f.down.x - f.origin.x) * (row / f.rows),
        f.origin.y + (f.across.y - f.origin.y) * (col / f.cols) +
          (f.down.y - f.origin.y) * (row / f.rows),
        f.origin.z + (f.across.z - f.origin.z) * (col / f.cols) +
          (f.down.z - f.origin.z) * (row / f.rows)⟩ := rfl

/-- Along an axis, a panel whose edges do not both go along it stays between its corners. -/
theorem coordinate_mem {low high a b c : α} {col cols row rows : Nat} (hcol : col ≤ cols)
    (hrow : row ≤ rows) (hle : low ≤ high) (ha : a = low ∨ a = high) (hb : b = low ∨ b = high)
    (hc : c = low ∨ c = high) (hstraight : b = a ∨ c = a) :
    a + (b - a) * (col / cols) + (c - a) * (row / rows) ∈ Set.Icc low high := by
  have part_mem : ∀ {i n : Nat}, i ≤ n → (i : α) / n ∈ Set.Icc 0 1 := by
    intro i n h
    exact ⟨by positivity, div_le_one_of_le₀ (Nat.cast_le.mpr h) (Nat.cast_nonneg n)⟩
  have between : ∀ {d t : α}, (d = low ∨ d = high) → t ∈ Set.Icc 0 1 →
      a + (d - a) * t ∈ Set.Icc low high := by
    intro d t hd ht
    have ha' : a ∈ Set.Icc low high := by rcases ha with rfl | rfl <;> simp [hle]
    have hd' : d ∈ Set.Icc low high := by rcases hd with rfl | rfl <;> simp [hle]
    have hmean : a * (1 - t) + d * t ∈ Set.Icc low high :=
      Bounds.mean_mem_Icc ha' hd' (sub_nonneg.mpr ht.2) ht.1 (by ring)
    have heq : a + (d - a) * t = a * (1 - t) + d * t := by ring
    rwa [heq]
  rcases hstraight with rfl | rfl
  · rw [sub_self, zero_mul, add_zero]
    exact between hc (part_mem hrow)
  · rw [sub_self, zero_mul, add_zero]
    exact between hb (part_mem hcol)

/-- The vertices of a face are on the surface of the box. -/
theorem IsFace.mem_surface {b : Bounds α} {f : Panel α} (h : f.IsFace b) (hx : b.low.x ≤ b.high.x)
    (hy : b.low.y ≤ b.high.y) (hz : b.low.z ≤ b.high.z) {p : Vec3 α} (hp : p ∈ f.points) :
    p ∈ b.surface := by
  simp only [points, Shape.gridOf, List.mem_flatMap, List.mem_map, List.mem_range,
    Nat.lt_succ_iff] at hp
  obtain ⟨row, hrow, col, hcol, rfl⟩ := hp
  obtain ⟨hox, hoy, hoz⟩ := Bounds.mem_corners.mp h.origin
  obtain ⟨hax, hay, haz⟩ := Bounds.mem_corners.mp h.across
  obtain ⟨hdx, hdy, hdz⟩ := Bounds.mem_corners.mp h.down
  rw [point_eq]
  refine ⟨⟨coordinate_mem hcol hrow hx hox hax hdx h.straight.1,
    coordinate_mem hcol hrow hy hoy hay hdy h.straight.2.1,
    coordinate_mem hcol hrow hz hoz haz hdz h.straight.2.2⟩, ?_⟩
  rcases h.spans with ⟨⟨ha, hd⟩, _⟩ | ⟨⟨ha, hd⟩, _⟩ | ⟨⟨ha, hd⟩, _⟩
  · refine Or.inl ?_
    simpa only [ha, hd, sub_self, zero_mul, add_zero] using hox
  · refine Or.inr (Or.inl ?_)
    simpa only [ha, hd, sub_self, zero_mul, add_zero] using hoy
  · refine Or.inr (Or.inr ?_)
    simpa only [ha, hd, sub_self, zero_mul, add_zero] using hoz

/-- A panel has all its vertices in a face of a box, from edge to edge. -/
structure Covers (b : Bounds α) (f : Panel α) : Prop where
  face : f.IsFace b
  count : f.points.length = (f.cols + 1) * (f.rows + 1)
  origin : f.point 0 0 = f.origin
  across : f.point f.cols 0 = f.across
  down : f.point 0 f.rows = f.down

/-- A face with cells both ways covers its side of the box. -/
theorem IsFace.covers {b : Bounds α} {f : Panel α} (h : f.IsFace b) (hcols : f.cols ≠ 0)
    (hrows : f.rows ≠ 0) : f.Covers b :=
  ⟨h, f.length_points, f.point_origin, point_across hcols, point_down hrows⟩

namespace Covers

variable {b : Bounds α} {f : Panel α}

theorem origin_mem (h : f.Covers b) : f.origin ∈ f.points :=
  h.origin ▸ point_mem (Nat.zero_le _) (Nat.zero_le _)

theorem across_mem (h : f.Covers b) : f.across ∈ f.points :=
  h.across ▸ point_mem le_rfl (Nat.zero_le _)

theorem down_mem (h : f.Covers b) : f.down ∈ f.points :=
  h.down ▸ point_mem (Nat.zero_le _) le_rfl

end Covers

end Panel

/-! ## Extents and middles -/

namespace Vec3

/-- Over an order the lesser of two vectors is the least of each coordinate. -/
theorem lesser_eq_min (a b : Vec3 α) : a.lesser b = ⟨min a.x b.x, min a.y b.y, min a.z b.z⟩ := by
  simp only [lesser, OrderedFieldScalar.lesser_eq_min]

/-- Over an order the greater of two vectors is the greatest of each coordinate. -/
theorem greater_eq_max (a b : Vec3 α) : a.greater b = ⟨max a.x b.x, max a.y b.y, max a.z b.z⟩ := by
  simp only [greater, OrderedFieldScalar.greater_eq_max]

/-- The distances of two points along the axes are the extents of the box between them. -/
theorem abs_sub_eq (a b : Vec3 α) : (b - a).abs = a.greater b - a.lesser b := by
  simp only [abs, sub_eq, lesser_eq_min, greater_eq_max, FieldScalar.abs_eq, max_sub_min_eq_abs]

/-- Sorting the coordinates of two corners keeps their sum. -/
theorem add_eq_lesser_add_greater (a b : Vec3 α) : a + b = a.lesser b + a.greater b := by
  simp only [add_eq, lesser_eq_min, greater_eq_max, min_add_max]

end Vec3

/-- The box between the declared corners. -/
def Box.bounds (g : Box α) : Bounds α := .ofCorners g.first g.second

/-- The faces of a box with the declared segments. -/
def Box.panels (g : Box α) : List (Panel α) :=
  g.bounds.panels (max g.partsX.toNat 1) (max g.partsY.toNat 1) (max g.partsZ.toNat 1)

/-- The box between the declared corners, which has no depth. -/
def Rectangle.bounds (g : Rectangle α) : Bounds α :=
  .ofCorners ⟨g.first.x, g.first.y, 0⟩ ⟨g.second.x, g.second.y, 0⟩

/-- A rectangle with the declared segments. -/
def Rectangle.panel (g : Rectangle α) : Panel α :=
  g.bounds.front (max g.partsX.toNat 1) (max g.partsY.toNat 1)

/-- Every panel of a box covers its side, since every part count is at least one. -/
theorem Box.covers_of_mem_panels {g : Box α} {f : Panel α} (hf : f ∈ g.panels) :
    f.Covers g.bounds := by
  have hface := Panel.isFace_of_mem_panels hf
  simp only [Box.panels, Bounds.panels, Bounds.front, List.mem_cons, List.not_mem_nil,
    or_false] at hf
  apply hface.covers
  · rcases hf with rfl | rfl | rfl | rfl | rfl | rfl <;> simp
  · rcases hf with rfl | rfl | rfl | rfl | rfl | rfl <;> simp

/-- The panel on the right starts at the greatest corner. -/
theorem Box.exists_origin_eq (g : Box α) : ∃ f ∈ g.panels, f.origin = g.bounds.high :=
  ⟨_, List.mem_cons_self, rfl⟩

/-- The panel on the left ends at the least corner. -/
theorem Box.exists_down_eq (g : Box α) : ∃ f ∈ g.panels, f.down = g.bounds.low :=
  ⟨_, List.mem_cons_of_mem _ List.mem_cons_self, rfl⟩

theorem Rectangle.across_panel (g : Rectangle α) : g.panel.across = g.bounds.high := rfl

theorem Rectangle.down_panel (g : Rectangle α) : g.panel.down = g.bounds.low := by
  have hlevel : g.bounds.low.z = g.bounds.high.z := by
    simp only [bounds, Bounds.ofCorners, Vec3.lesser_eq_min, Vec3.greater_eq_max, min_self,
      max_self]
  exact Vec3.ext rfl rfl hlevel.symm

/-- A rectangle's one panel covers all of it. -/
theorem Rectangle.covers_panel (g : Rectangle α) : g.panel.Covers g.bounds := by
  apply (Panel.isFace_front g.bounds _ _).covers
  all_goals simp [Bounds.front]

namespace Shape

/-! ## Sides over panels -/

/-- A side that is shifted has its vertices where those of a panel are. -/
structure Side.LaidOver (offset : Vec3 α) (s : Side α) (f : Panel α) : Prop where
  cols : s.cols = f.cols
  rows : s.rows = f.rows
  position : ∀ col row, s.position col row + offset = f.point col row

/-- The sides that are built are the panels, one for one and in the same order. -/
theorem laidOver_boxSides (g : Box α) :
    List.Forall₂ (Side.LaidOver (ofBox g).offset) (boxSides g) g.panels := by
  have hoffset : (ofBox g).offset = (g.bounds.low + g.bounds.high).scale Scalar.half :=
    congrArg (Vec3.scale · Scalar.half) (Vec3.add_eq_lesser_add_greater g.first g.second)
  have hextent : (g.second - g.first).abs = g.bounds.high - g.bounds.low :=
    Vec3.abs_sub_eq g.first g.second
  rw [hoffset]
  simp only [boxSides, Box.panels, Bounds.panels, Bounds.front, hextent]
  refine .cons ⟨rfl, rfl, ?_⟩ <| .cons ⟨rfl, rfl, ?_⟩ <| .cons ⟨rfl, rfl, ?_⟩ <|
    .cons ⟨rfl, rfl, ?_⟩ <| .cons ⟨rfl, rfl, ?_⟩ <| .cons ⟨rfl, rfl, ?_⟩ .nil
  all_goals
    intro col row
    simp only [Side.position, Panel.point_eq, OrderedFieldScalar.ofCount_eq, Vec3.add_eq,
      Vec3.sub_eq, Vec3.scale, Scalar.half, Scalar.two]
    ext <;> ring

theorem gridOf_map {β γ : Type} (f : β → γ) (cols rows : Nat) (vertex : Nat → Nat → β) :
    (gridOf cols rows vertex).map f = gridOf cols rows fun col row => f (vertex col row) := by
  simp only [gridOf, List.map_flatMap, List.map_map]
  rfl

/-- Lists whose items give equal lists, one for one, give equal lists together. -/
theorem flatMap_eq_of_forall₂ {β γ δ : Type} {f : β → List δ} {g : γ → List δ} {items : List β}
    {others : List γ} (h : List.Forall₂ (fun x y => f x = g y) items others) :
    items.flatMap f = others.flatMap g := by
  induction h with
  | nil => rfl
  | cons hfirst _ ih => rw [List.flatMap_cons, List.flatMap_cons, hfirst, ih]

/-- A side laid over a panel has the panel's points, moved back by the offset. -/
theorem Side.LaidOver.points_eq {offset : Vec3 α} {s : Side α} {f : Panel α}
    (h : s.LaidOver offset f) :
    (gridOf s.cols s.rows s.position).map (· + offset) = f.points := by
  rw [gridOf_map, h.cols, h.rows]
  simp only [h.position]
  rfl

/-- The vertices of a box are those of its faces. -/
theorem positions_ofBox (g : Box α) :
    (ofBox g).mesh.positions.toList.map (· + (ofBox g).offset) =
      g.panels.flatMap Panel.points := by
  have hpositions : (ofBox g).mesh.positions.toList =
      (boxSides g).flatMap fun s => gridOf s.cols s.rows s.position := rfl
  rw [hpositions, List.map_flatMap]
  exact flatMap_eq_of_forall₂ ((laidOver_boxSides g).imp fun _ _ h => h.points_eq)

/-- The vertices of a rectangle are those of the front of a box without depth. -/
theorem positions_ofRectangle (g : Rectangle α) :
    (ofRectangle g).mesh.positions.toList.map (· + (ofRectangle g).offset) = g.panel.points := by
  have hextent : ∀ a b : α, |b - a| = max a b - min a b := fun a b => (max_sub_min_eq_abs a b).symm
  have hmiddle : ∀ a b : α, a + b = min a b + max a b := fun a b => (min_add_max a b).symm
  simp only [ofRectangle, Mesh.withUvs, Mesh.ofVertices, gridOf_map]
  refine congrArg (gridOf _ _) (funext fun col => funext fun row => ?_)
  have hsum : g.first + g.second = ⟨g.first.x + g.second.x, g.first.y + g.second.y⟩ := rfl
  have hdifference : g.second - g.first = ⟨g.second.x - g.first.x, g.second.y - g.first.y⟩ := rfl
  simp only [hsum, hdifference, Vec2.abs, Vec2.scale, FieldScalar.abs_eq, hextent,
    hmiddle g.first.x, hmiddle g.first.y, Vec3.add_eq, Panel.point_eq, Rectangle.panel,
    Bounds.front, Rectangle.bounds, Bounds.ofCorners, Vec3.lesser_eq_min, Vec3.greater_eq_max,
    OrderedFieldScalar.ofCount_eq, Scalar.half, Scalar.two, max_self]
  ext <;> ring

end Shape

end Scenery
