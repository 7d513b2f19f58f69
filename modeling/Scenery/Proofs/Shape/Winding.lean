import Scenery.Proofs.Shape.Faces
import Scenery.Proofs.Shape.Panel

/-!
# How the triangles of a box wind

A triangle winds counter-clockwise, seen from where its normals point to, if the outer product
of two of its edges goes along them.  Over the numbers of a field all triangles of a panel have
the same outer product, that of the edges of the panel over the number of its cells
(`Panel.cross_near`, `Panel.cross_far`).

For a side of a box it goes outward along an axis, and the extents along the other two axes
say how far (`Box.Facing`).  The normal of a side is not taken from it, but from the sign of
the depth, and a depth of zero is taken to go down.  So the two agree on the lower sides, and
on the upper ones as long as the box has an extent along their axis.  A box that is flat along
an axis still has an upper side there, whose triangles wind clockwise seen from its normal.
`Shape.winds_ofBox` says so of each triangle, and `Shape.winds_wall` gives such a one.
-/

namespace Scenery

variable {α : Type}

/-- The corners of a triangle are vertices of a mesh, at three places and with one normal. -/
structure Mesh.Spans (m : Mesh α) (f : Face) (p q r n : Vec3 α) : Prop where
  first : m.positions[f.a]? = some p
  second : m.positions[f.b]? = some q
  third : m.positions[f.c]? = some r
  normals : ∃ normals, m.normals = some normals ∧
    normals[f.a]? = some n ∧ normals[f.b]? = some n ∧ normals[f.c]? = some n

/-- A direction goes up an axis along which a box has no extent. -/
def Box.FlatUp [LT α] [Zero α] (g : Box α) (v : Vec3 α) : Prop :=
  (g.first.x = g.second.x ∧ 0 < v.x) ∨ (g.first.y = g.second.y ∧ 0 < v.y) ∨
    (g.first.z = g.second.z ∧ 0 < v.z)

/-- Which way a side of a depth faces. -/
def Shape.sense [Scalar α] (depth : α) : α := if 0 < depth then 1 else -1

open Shape (sense)

variable [OrderedFieldScalar α]

/-! ## Triangles of panels -/

namespace Panel

/-- The outer product of the edges of a panel. -/
def outward (f : Panel α) : Vec3 α := (f.down - f.origin).cross (f.across - f.origin)

/-- The near triangle of every cell has the panel's direction, scaled by the cell. -/
theorem cross_near (f : Panel α) (col row : Nat) :
    (f.point col (row + 1) - f.point col row).cross (f.point (col + 1) row - f.point col row) =
      ((f.cols : α) * f.rows)⁻¹ • f.outward := by
  simp only [point_eq, outward, Vec3.sub_eq, Vec3.smul_eq, Vec3.cross, Nat.cast_succ]
  ext <;> ring

/-- The far triangle of every cell has the same direction as the near one. -/
theorem cross_far (f : Panel α) (col row : Nat) :
    (f.point (col + 1) (row + 1) - f.point col (row + 1)).cross
        (f.point (col + 1) row - f.point col (row + 1)) =
      ((f.cols : α) * f.rows)⁻¹ • f.outward := by
  simp only [point_eq, outward, Vec3.sub_eq, Vec3.smul_eq, Vec3.cross, Nat.cast_succ]
  ext <;> ring

end Panel

/-! ## Sides of a box -/

namespace Box

/-- The extent of a box along each axis. -/
def extent (g : Box α) : Vec3 α := g.bounds.high - g.bounds.low

theorem abs_sub_eq_extent (g : Box α) : (g.second - g.first).abs = g.extent :=
  Vec3.abs_sub_eq g.first g.second

theorem extent_eq (g : Box α) :
    g.extent = ⟨|g.second.x - g.first.x|, |g.second.y - g.first.y|, |g.second.z - g.first.z|⟩ := by
  rw [← abs_sub_eq_extent, Vec3.abs, Vec3.sub_eq]
  simp only [FieldScalar.abs_eq]

/-- The normal of a side and the outer product of the edges of its panel. -/
inductive Facing (g : Box α) : Vec3 α → Vec3 α → Prop
  | right : Facing g ⟨sense g.extent.x, 0, 0⟩ ⟨g.extent.y * g.extent.z, 0, 0⟩
  | left : Facing g ⟨sense (-g.extent.x), 0, 0⟩ ⟨-(g.extent.y * g.extent.z), 0, 0⟩
  | top : Facing g ⟨0, sense g.extent.y, 0⟩ ⟨0, g.extent.x * g.extent.z, 0⟩
  | bottom : Facing g ⟨0, sense (-g.extent.y), 0⟩ ⟨0, -(g.extent.x * g.extent.z), 0⟩
  | front : Facing g ⟨0, 0, sense g.extent.z⟩ ⟨0, 0, g.extent.x * g.extent.y⟩
  | back : Facing g ⟨0, 0, sense (-g.extent.z)⟩ ⟨0, 0, -(g.extent.x * g.extent.y)⟩

theorem Facing.of_eq {g : Box α} {n v v' : Vec3 α} (h : g.Facing n v) (hv : v' = v) :
    g.Facing n v' := by
  rwa [hv]

/-- Each side of a box has a normal and a direction that face the same axis. -/
theorem facing_boxSides (g : Box α) :
    List.Forall₂ (fun s f => g.Facing s.normal f.outward) (Shape.boxSides g) g.panels := by
  simp only [Shape.boxSides, Box.panels, Bounds.panels, Bounds.front, g.abs_sub_eq_extent]
  refine .cons (Facing.right.of_eq ?_) <| .cons (Facing.left.of_eq ?_) <|
    .cons (Facing.top.of_eq ?_) <| .cons (Facing.bottom.of_eq ?_) <|
    .cons (Facing.front.of_eq ?_) <| .cons (Facing.back.of_eq ?_) .nil
  all_goals
    simp only [Panel.outward, Vec3.cross, Vec3.sub_eq, extent]
    ext <;> ring

/-- A direction goes along a normal, unless it goes up an axis along which the box has no
extent.  Then it goes against the normal. -/
structure Winds (g : Box α) (v n : Vec3 α) : Prop where
  along : 0 < v.dot n ↔ ¬ g.FlatUp v
  against : v.dot n < 0 ↔ g.FlatUp v

/-- A direction goes up a flat axis if the extent along it is zero. -/
theorem flatUp_iff {g : Box α} {v : Vec3 α} :
    g.FlatUp v ↔ (g.extent.x = 0 ∧ 0 < v.x) ∨ (g.extent.y = 0 ∧ 0 < v.y) ∨
      (g.extent.z = 0 ∧ 0 < v.z) := by
  have hflat : ∀ a b : α, a = b ↔ |b - a| = 0 := by
    intro a b
    rw [abs_eq_zero, sub_eq_zero, eq_comm]
  rw [FlatUp, extent_eq, hflat g.first.x, hflat g.first.y, hflat g.first.z]

/-- What goes up an axis goes along the normal of the upper side if there is an extent. -/
theorem sense_up {t a : α} (ht : 0 < t) (ha : 0 ≤ a) :
    (0 < t * sense a ↔ ¬ (a = 0 ∧ 0 < t)) ∧ (t * sense a < 0 ↔ a = 0 ∧ 0 < t) := by
  rcases ha.eq_or_lt with rfl | hpos
  · simp [sense, ht, ht.le]
  · simp [sense, ht, ht.le, hpos, hpos.ne']

/-- What goes down an axis goes along the normal of the lower side. -/
theorem sense_down {t a : α} (ht : t < 0) (ha : 0 ≤ a) :
    (0 < t * sense (-a) ↔ ¬ (a = 0 ∧ 0 < t)) ∧ (t * sense (-a) < 0 ↔ a = 0 ∧ 0 < t) := by
  have hsense : sense (-a) = -1 := if_neg (not_lt.mpr (neg_nonpos.mpr ha))
  simp [hsense, ht, ht.le]

theorem winds_of_iff {g : Box α} {v n : Vec3 α} {d : α} {p : Prop} (hdot : v.dot n = d)
    (hflat : g.FlatUp v ↔ p) (h : (0 < d ↔ ¬ p) ∧ (d < 0 ↔ p)) : g.Winds v n := by
  constructor
  · rw [hdot, hflat]
    exact h.1
  · rw [hdot, hflat]
    exact h.2

/-- A side that faces an axis winds along its normal, unless it goes up a flat axis. -/
theorem Facing.winds {g : Box α} {n v : Vec3 α} (h : g.Facing n v) {k : α} (hk : 0 < k)
    (hne : k • v ≠ 0) : g.Winds (k • v) n := by
  have hx : 0 ≤ g.extent.x := by simp [extent_eq]
  have hy : 0 ≤ g.extent.y := by simp [extent_eq]
  have hz : 0 ≤ g.extent.z := by simp [extent_eq]
  have up : ∀ {t a : α}, 0 ≤ t → t * k ≠ 0 → 0 ≤ a →
      (0 < t * k * sense a ↔ ¬ (a = 0 ∧ 0 < t * k)) ∧
        (t * k * sense a < 0 ↔ a = 0 ∧ 0 < t * k) :=
    fun ht hne ha => sense_up ((mul_nonneg ht hk.le).lt_of_ne' hne) ha
  have down : ∀ {t a : α}, 0 ≤ t → -t * k ≠ 0 → 0 ≤ a →
      (0 < -t * k * sense (-a) ↔ ¬ (a = 0 ∧ 0 < -t * k)) ∧
        (-t * k * sense (-a) < 0 ↔ a = 0 ∧ 0 < -t * k) :=
    fun ht hne ha => sense_down
      ((mul_nonpos_of_nonpos_of_nonneg (neg_nonpos.mpr ht) hk.le).lt_of_ne hne) ha
  rw [Vec3.smul_eq] at hne ⊢
  rw [Vec3.zero_eq, ne_eq, Vec3.mk.injEq] at hne
  cases h with
  | right =>
      exact winds_of_iff (by simp [Vec3.dot]) (by simp [flatUp_iff])
        (up (mul_nonneg hy hz) (by simpa using hne) hx)
  | left =>
      exact winds_of_iff (by simp [Vec3.dot]) (by simp [flatUp_iff])
        (down (mul_nonneg hy hz) (by simpa using hne) hx)
  | top =>
      exact winds_of_iff (by simp [Vec3.dot]) (by simp [flatUp_iff])
        (up (mul_nonneg hx hz) (by simpa using hne) hy)
  | bottom =>
      exact winds_of_iff (by simp [Vec3.dot]) (by simp [flatUp_iff])
        (down (mul_nonneg hx hz) (by simpa using hne) hy)
  | front =>
      exact winds_of_iff (by simp [Vec3.dot]) (by simp [flatUp_iff])
        (up (mul_nonneg hx hy) (by simpa using hne) hz)
  | back =>
      exact winds_of_iff (by simp [Vec3.dot]) (by simp [flatUp_iff])
        (down (mul_nonneg hx hy) (by simpa using hne) hz)

end Box

/-! ## Triangles of a box -/

namespace Shape

/-- Differences on a side are those on the panel it is laid over. -/
theorem Side.LaidOver.sub {offset : Vec3 α} {s : Side α} {f : Panel α} (h : s.LaidOver offset f)
    (col row col' row' : Nat) :
    s.position col row - s.position col' row' = f.point col row - f.point col' row' := by
  rw [← h.position, ← h.position, add_sub_add_right_eq_sub]

/-- Every side of a box is laid over a panel that faces its way. -/
theorem exists_panel {g : Box α} {s : Side α} (hs : s ∈ boxSides g) :
    ∃ f : Panel α, s.LaidOver (ofBox g).offset f ∧ g.Facing s.normal f.outward := by
  obtain ⟨i, hi, rfl⟩ := List.getElem_of_mem hs
  have hi' : i < g.panels.length := by rwa [← (laidOver_boxSides g).length_eq]
  exact ⟨g.panels[i], (laidOver_boxSides g).get hi hi', g.facing_boxSides.get hi hi'⟩

/-- Every side of a box has a segment each way. -/
theorem segments_pos {g : Box α} {s : Side α} (hs : s ∈ boxSides g) : 0 < s.cols ∧ 0 < s.rows := by
  simp only [boxSides, List.mem_cons, List.not_mem_nil, or_false] at hs
  rcases hs with rfl | rfl | rfl | rfl | rfl | rfl <;> simp

/-- A triangle of a grid has its corners in the list of the vertices, and all triangles have
the same outer product of two edges. -/
theorem exists_corners_of_mem_gridIndices {positions : List (Vec3 α)} {offset : Vec3 α}
    {s : Side α} {panel : Panel α} (hover : s.LaidOver offset panel) {own : Nat}
    (hat : GridAt positions own s.cols s.rows s.position) {f : Face}
    (h : f ∈ facesOf (gridIndices own s.cols s.rows)) :
    ∃ p q r, positions[f.a]? = some p ∧ positions[f.b]? = some q ∧ positions[f.c]? = some r ∧
      (q - p).cross (r - p) = ((s.cols : α) * s.rows)⁻¹ • panel.outward := by
  obtain ⟨row, hrow, col, hcol, rfl | rfl⟩ := mem_facesOf_gridIndices.mp h
  · refine ⟨_, _, _, hat col hcol.le row hrow.le, hat col hcol.le (row + 1) hrow,
      hat (col + 1) hcol row hrow.le, ?_⟩
    rw [hover.sub, hover.sub, panel.cross_near, hover.cols, hover.rows]
  · refine ⟨_, _, _, hat col hcol.le (row + 1) hrow, hat (col + 1) hcol (row + 1) hrow,
      hat (col + 1) hcol row hrow.le, ?_⟩
    rw [hover.sub, hover.sub, panel.cross_far, hover.cols, hover.rows]

/-- The corners of a triangle of a constant grid are that constant. -/
theorem corners_of_mem_gridIndices {β : Type} {items : List β} {own cols rows : Nat} {x : β}
    (hat : GridAt items own cols rows fun _ _ => x) {f : Face}
    (h : f ∈ facesOf (gridIndices own cols rows)) :
    items[f.a]? = some x ∧ items[f.b]? = some x ∧ items[f.c]? = some x := by
  obtain ⟨row, hrow, col, hcol, rfl | rfl⟩ := mem_facesOf_gridIndices.mp h
  · exact ⟨hat col hcol.le row hrow.le, hat col hcol.le (row + 1) hrow,
      hat (col + 1) hcol row hrow.le⟩
  · exact ⟨hat col hcol.le (row + 1) hrow, hat (col + 1) hcol (row + 1) hrow,
      hat (col + 1) hcol row hrow.le⟩

/-- Every triangle of a box has three vertices with one normal.  If it has an area, it winds
counter-clockwise seen from that normal, unless it is on the upper side of a box that is flat
along an axis.  Then it winds clockwise. -/
theorem winds_ofBox (g : Box α) : ∀ f ∈ (ofBox g).mesh.faces, ∃ p q r n,
    (ofBox g).mesh.Spans f p q r n ∧
      ((q - p).cross (r - p) ≠ 0 → g.Winds ((q - p).cross (r - p)) n) := by
  intro f hf
  have hfaces : (ofBox g).mesh.faces = facesOf (sideIndices 0 (boxSides g)) := rfl
  obtain ⟨s, hs, own, hown, hat⟩ := exists_side_of_mem_facesOf (hfaces ▸ hf)
  obtain ⟨panel, hover, hfacing⟩ := exists_panel hs
  obtain ⟨p, q, r, hp, hq, hr, hcross⟩ :=
    exists_corners_of_mem_gridIndices hover (hat Side.position [] rfl) hown
  obtain ⟨hna, hnb, hnc⟩ := corners_of_mem_gridIndices (hat (fun s _ _ => s.normal) [] rfl) hown
  refine ⟨p, q, r, s.normal, ⟨?_, ?_, ?_, _, rfl, ?_, ?_, ?_⟩, ?_⟩
  · exact List.getElem?_toArray.trans hp
  · exact List.getElem?_toArray.trans hq
  · exact List.getElem?_toArray.trans hr
  · exact List.getElem?_toArray.trans hna
  · exact List.getElem?_toArray.trans hnb
  · exact List.getElem?_toArray.trans hnc
  · obtain ⟨hcols, hrows⟩ := segments_pos hs
    rw [hcross]
    exact hfacing.winds (inv_pos.mpr (mul_pos (Nat.cast_pos.mpr hcols) (Nat.cast_pos.mpr hrows)))

/-- A box with extents along all axes, of two segments along the first. -/
def brick : Box ℚ := ⟨⟨2, 0, 3⟩, ⟨0, 1, 0⟩, 2, 1, 0⟩

/-- A box without an extent along the first axis. -/
def wall : Box ℚ := ⟨⟨0, 0, 0⟩, ⟨0, 1, 1⟩, 1, 1, 1⟩

/-- A triangle on the upper side of a brick winds along the normal. -/
theorem winds_brick :
    (⟨9, 12, 10⟩ : Face) ∈ (ofBox brick).mesh.faces ∧
      ∃ n, (ofBox brick).mesh.Spans ⟨9, 12, 10⟩ ⟨0, 1 / 2, -3 / 2⟩ ⟨0, 1 / 2, 3 / 2⟩
        ⟨1, 1 / 2, -3 / 2⟩ n ∧ brick.Winds ⟨0, 3, 0⟩ n := by
  have hf : (⟨9, 12, 10⟩ : Face) ∈ (ofBox brick).mesh.faces := by decide +kernel
  obtain ⟨p, q, r, n, hspans, hwinds⟩ := winds_ofBox brick _ hf
  have hp : (ofBox brick).mesh.positions[9]? = some ⟨0, 1 / 2, -3 / 2⟩ := by decide +kernel
  have hq : (ofBox brick).mesh.positions[12]? = some ⟨0, 1 / 2, 3 / 2⟩ := by decide +kernel
  have hr : (ofBox brick).mesh.positions[10]? = some ⟨1, 1 / 2, -3 / 2⟩ := by decide +kernel
  obtain rfl := Option.some.inj (hspans.first.symm.trans hp)
  obtain rfl := Option.some.inj (hspans.second.symm.trans hq)
  obtain rfl := Option.some.inj (hspans.third.symm.trans hr)
  have hcross : ((⟨0, 1 / 2, 3 / 2⟩ - ⟨0, 1 / 2, -3 / 2⟩ : Vec3 ℚ)).cross
      (⟨1, 1 / 2, -3 / 2⟩ - ⟨0, 1 / 2, -3 / 2⟩) = ⟨0, 3, 0⟩ := by
    decide +kernel
  rw [hcross] at hwinds
  refine ⟨hf, n, hspans, hwinds ?_⟩
  intro h
  exact absurd (congrArg Vec3.y h) (by decide +kernel)

/-- A triangle on the upper side of a wall winds against its normals. -/
theorem winds_wall :
    ∃ f ∈ (ofBox wall).mesh.faces, ∃ p q r n, (ofBox wall).mesh.Spans f p q r n ∧
      (q - p).cross (r - p) ≠ 0 ∧ ((q - p).cross (r - p)).dot n < 0 := by
  refine ⟨⟨0, 2, 1⟩, by decide +kernel, ⟨0, 1 / 2, 1 / 2⟩, ⟨0, -1 / 2, 1 / 2⟩,
    ⟨0, 1 / 2, -1 / 2⟩, ⟨-1, 0, 0⟩, ⟨?_, ?_, ?_, _, rfl, ?_, ?_, ?_⟩, ?_, ?_⟩
  case refine_7 =>
    intro h
    exact absurd (congrArg Vec3.x h) (by decide +kernel)
  all_goals decide +kernel

end Shape

end Scenery
