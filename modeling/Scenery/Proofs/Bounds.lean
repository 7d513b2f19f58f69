import Scenery.Proofs.Matrix
import Scenery.Bounds

/-!
# What a box holds

A box holds a point if the point is between its corners along every axis
(`Bounds.Holds`).  Over ordered numbers the points of space are a lattice, in which
growing a box by a point and the union of two boxes are the lattice operations on
the corners.  So a box around some points holds each of them
(`Bounds.holds_enclosing`) and is the only such box that has its corners among them
(`Bounds.enclosing_eq`), a union holds what either box holds
(`Bounds.holds_foldl_union`), and a box that holds anything is not empty.

Moving is about exact numbers.  Along an axis, where a matrix puts a point is a
sum of multiples of the point's coordinates.  Each of the multiples is least at
one end of the box, high or low as the sign of the factor is, and the ends taken
together are a corner.  So some moved corner is below the moved point and some
other above it (`Bounds.exists_corners`), and the box around the moved corners
holds it (`Bounds.Holds.moved`).
-/

namespace Scenery

section

variable {α : Type} [OrderedScalar α]

/-! ## Points in order -/

namespace Vec3

instance : PartialOrder (Vec3 α) where
  le a b := a.x ≤ b.x ∧ a.y ≤ b.y ∧ a.z ≤ b.z
  le_refl _ := ⟨le_rfl, le_rfl, le_rfl⟩
  le_trans _ _ _ h k := ⟨h.1.trans k.1, h.2.1.trans k.2.1, h.2.2.trans k.2.2⟩
  le_antisymm _ _ h k :=
    Vec3.ext (h.1.antisymm k.1) (h.2.1.antisymm k.2.1) (h.2.2.antisymm k.2.2)

theorem lesser_eq (a b : Vec3 α) : a.lesser b = ⟨min a.x b.x, min a.y b.y, min a.z b.z⟩ := by
  simp only [lesser, OrderedScalar.lesser_eq_min]

theorem greater_eq (a b : Vec3 α) : a.greater b = ⟨max a.x b.x, max a.y b.y, max a.z b.z⟩ := by
  simp only [greater, OrderedScalar.greater_eq_max]

instance : Lattice (Vec3 α) where
  inf := lesser
  sup := greater
  inf_le_left a b := by
    rw [lesser_eq]
    exact ⟨min_le_left .., min_le_left .., min_le_left ..⟩
  inf_le_right a b := by
    rw [lesser_eq]
    exact ⟨min_le_right .., min_le_right .., min_le_right ..⟩
  le_inf a b c h k := by
    rw [lesser_eq]
    exact ⟨le_min h.1 k.1, le_min h.2.1 k.2.1, le_min h.2.2 k.2.2⟩
  le_sup_left a b := by
    rw [greater_eq]
    exact ⟨le_max_left .., le_max_left .., le_max_left ..⟩
  le_sup_right a b := by
    rw [greater_eq]
    exact ⟨le_max_right .., le_max_right .., le_max_right ..⟩
  sup_le a b c h k := by
    rw [greater_eq]
    exact ⟨max_le h.1 k.1, max_le h.2.1 k.2.1, max_le h.2.2 k.2.2⟩

end Vec3

namespace Bounds

/-! ## Points in a box -/

/-- A box holds a point. -/
def Holds (b : Bounds α) (p : Vec3 α) : Prop := b.low ≤ p ∧ p ≤ b.high

variable {a b : Bounds α} {p : Vec3 α}

/-- A box that holds a point holds it when it has grown. -/
theorem Holds.grow (h : b.Holds p) (q : Vec3 α) : (b.grow q).Holds p :=
  ⟨inf_le_left.trans h.1, h.2.trans le_sup_left⟩

/-- A box that grows by a point holds that point. -/
theorem holds_grow_self (b : Bounds α) (p : Vec3 α) : (b.grow p).Holds p :=
  ⟨inf_le_right, le_sup_right⟩

/-- A box that grows by many points holds them and what it held before. -/
theorem holds_foldl_grow {points : List (Vec3 α)} :
    ∀ {b : Bounds α}, b.Holds p ∨ p ∈ points → (points.foldl Bounds.grow b).Holds p := by
  induction points with
  | nil =>
      intro b h
      exact h.resolve_right List.not_mem_nil
  | cons q points ih =>
      intro b h
      apply ih
      rcases h with h | h
      · exact Or.inl (h.grow q)
      · rcases List.mem_cons.mp h with rfl | h
        · exact Or.inl (holds_grow_self b p)
        · exact Or.inr h

/-- The box around some points holds each of them. -/
theorem holds_enclosing {points : List (Vec3 α)} (h : p ∈ points) : (enclosing points).Holds p :=
  holds_foldl_grow (Or.inr h)

/-- The low corner of the empty box is above every point. -/
theorem le_low_empty (p : Vec3 α) : p ≤ (empty : Bounds α).low :=
  ⟨OrderedScalar.le_infinity _, OrderedScalar.le_infinity _, OrderedScalar.le_infinity _⟩

/-- The high corner of the empty box is below every point. -/
theorem high_empty_le (p : Vec3 α) : (empty : Bounds α).high ≤ p :=
  ⟨OrderedScalar.neg_infinity_le _, OrderedScalar.neg_infinity_le _,
    OrderedScalar.neg_infinity_le _⟩

/-- A box grows by points of another box only inside that box. -/
theorem within_foldl_grow {points : List (Vec3 α)} (h : ∀ p ∈ points, a.Holds p) :
    ∀ {b : Bounds α}, a.low ≤ b.low ∧ b.high ≤ a.high →
      a.low ≤ (points.foldl Bounds.grow b).low ∧ (points.foldl Bounds.grow b).high ≤ a.high := by
  induction points with
  | nil => exact id
  | cons q points ih =>
      obtain ⟨hq, hpoints⟩ := List.forall_mem_cons.mp h
      intro b hb
      exact ih hpoints ⟨le_inf hb.1 hq.1, sup_le hb.2 hq.2⟩

/-- A box that holds some points is the box around them if its corners are among them. -/
theorem enclosing_eq {points : List (Vec3 α)} (h : ∀ p ∈ points, b.Holds p)
    (hlow : b.low ∈ points) (hhigh : b.high ∈ points) : enclosing points = b := by
  have hwithin := within_foldl_grow h ⟨le_low_empty b.low, high_empty_le b.high⟩
  exact Bounds.ext ((holds_enclosing hlow).1.antisymm hwithin.1)
    (hwithin.2.antisymm (holds_enclosing hhigh).2)

/-- A union holds what its first box holds. -/
theorem Holds.union_left (h : a.Holds p) (b : Bounds α) : (a.union b).Holds p :=
  ⟨inf_le_left.trans h.1, h.2.trans le_sup_left⟩

/-- A union holds what its second box holds. -/
theorem Holds.union_right (h : b.Holds p) (a : Bounds α) : (a.union b).Holds p :=
  ⟨inf_le_right.trans h.1, h.2.trans le_sup_right⟩

/-- The union of some boxes holds what any of them holds. -/
theorem holds_foldl_union {boxes : List (Bounds α)} :
    ∀ {a : Bounds α}, (a.Holds p ∨ ∃ b ∈ boxes, b.Holds p) → (boxes.foldl .union a).Holds p := by
  induction boxes with
  | nil =>
      rintro a (h | ⟨b, hb, _⟩)
      · exact h
      · cases hb
  | cons c boxes ih =>
      rintro a (h | ⟨b, hb, h⟩)
      · exact ih (Or.inl (h.union_left c))
      · rcases List.mem_cons.mp hb with rfl | hb
        · exact ih (Or.inl (h.union_right a))
        · exact ih (Or.inr ⟨b, hb, h⟩)

/-! ## Empty boxes -/

/-- A box that holds a point is not empty. -/
theorem Holds.isEmpty_eq_false (h : b.Holds p) : b.isEmpty = false := by
  obtain ⟨⟨hx, hy, hz⟩, hx', hy', hz'⟩ := h
  rw [isEmpty, decide_eq_false (hx.trans hx').not_gt, decide_eq_false (hy.trans hy').not_gt,
    decide_eq_false (hz.trans hz').not_gt]
  rfl

@[simp] theorem isEmpty_empty : (empty : Bounds α).isEmpty = true := by
  have hlt : (empty : Bounds α).high.x < (empty : Bounds α).low.x := OrderedScalar.neg_infinity_lt
  rw [isEmpty, decide_eq_true hlt]
  rfl

/-- The first point takes the place of the infinities. -/
theorem empty_grow (p : Vec3 α) : empty.grow p = ⟨p, p⟩ :=
  Bounds.ext (inf_eq_right.mpr (le_low_empty p)) (sup_eq_right.mpr (high_empty_le p))

/-- A box together with itself is that box. -/
theorem union_self (b : Bounds α) : b.union b = b :=
  Bounds.ext (inf_idem b.low) (sup_idem b.high)

/-- Empty boxes have an empty union. -/
theorem foldl_union_empty {boxes : List (Bounds α)} (h : ∀ b ∈ boxes, b = empty) :
    boxes.foldl .union empty = empty := by
  induction boxes with
  | nil => rfl
  | cons b boxes ih =>
      obtain ⟨rfl, hrest⟩ := List.forall_mem_cons.mp h
      rw [List.foldl_cons, union_self, ih hrest]

/-- The empty box moves to the empty box. -/
theorem moved_empty (m : Mat4 α) : (empty : Bounds α).moved m = empty := by
  rw [moved, if_pos isEmpty_empty]

/-! ## Corners -/

omit [OrderedScalar α] in
/-- A corner takes each coordinate from one of the two ends. -/
theorem mem_corners {b : Bounds α} {p : Vec3 α} :
    p ∈ b.corners ↔ (p.x = b.low.x ∨ p.x = b.high.x) ∧ (p.y = b.low.y ∨ p.y = b.high.y) ∧
      (p.z = b.low.z ∨ p.z = b.high.z) := by
  simp only [corners, List.mem_cons, List.not_mem_nil, or_false, Vec3.ext_iff]
  grind

end Bounds

end

namespace Bounds

open Exact

variable {b : Bounds Exact} {p : Vec3 Exact}

/-! ## Finite boxes -/

/-- The least and the greatest corner of a box are finite. -/
structure Finite (b : Bounds Exact) : Prop where
  low : b.low.Finite
  high : b.high.Finite

theorem Finite.of_mem_corners (h : b.Finite) (hp : p ∈ b.corners) : p.Finite := by
  obtain ⟨hx, hy, hz⟩ := mem_corners.mp hp
  constructor
  · rcases hx with hx | hx
    · exact hx ▸ h.low.x
    · exact hx ▸ h.high.x
  · rcases hy with hy | hy
    · exact hy ▸ h.low.y
    · exact hy ▸ h.high.y
  · rcases hz with hz | hz
    · exact hz ▸ h.low.z
    · exact hz ▸ h.high.z

variable [Approximation]

theorem Finite.grow (h : b.Finite) (hp : p.Finite) : (b.grow p).Finite :=
  ⟨h.low.lesser hp, h.high.greater hp⟩

/-- The box around some finite points is finite, if there are any. -/
theorem finite_enclosing {points : List (Vec3 Exact)} (hne : points ≠ [])
    (h : ∀ p ∈ points, p.Finite) : (enclosing points).Finite := by
  cases points with
  | nil => exact absurd rfl hne
  | cons p points =>
      obtain ⟨hp, hpoints⟩ := List.forall_mem_cons.mp h
      rw [enclosing, List.foldl_cons, empty_grow]
      exact List.foldlRecOn points _ (⟨hp, hp⟩ : Finite ⟨p, p⟩)
        fun b hb q hq => hb.grow (hpoints q hq)

/-! ## Moved boxes -/

/-- Of the corners of a box, some come no higher along an axis than a point of the
box, and some no lower. -/
theorem exists_corners (hb : b.Finite) (hp : p.Finite) (hold : b.Holds p) {c : Vec4 Exact}
    (hc : c.Finite) :
    ∃ q ∈ b.corners, ∃ r ∈ b.corners, c.form q ≤ c.form p ∧ c.form p ≤ c.form r := by
  obtain ⟨⟨hlx, hly, hlz⟩, hhx, hhy, hhz⟩ := hold
  obtain ⟨x, x', hx, hx', hlex, hgex⟩ := exists_ends hc.x hb.low.x hp.x hb.high.x hlx hhx
  obtain ⟨y, y', hy, hy', hley, hgey⟩ := exists_ends hc.y hb.low.y hp.y hb.high.y hly hhy
  obtain ⟨z, z', hz, hz', hlez, hgez⟩ := exists_ends hc.z hb.low.z hp.z hb.high.z hlz hhz
  have hq : (⟨x, y, z⟩ : Vec3 Exact) ∈ b.corners := mem_corners.mpr ⟨hx, hy, hz⟩
  have hr : (⟨x', y', z'⟩ : Vec3 Exact) ∈ b.corners := mem_corners.mpr ⟨hx', hy', hz'⟩
  exact ⟨_, hq, _, hr, hc.form_le_form (hb.of_mem_corners hq) hp hlex hley hlez,
    hc.form_le_form hp (hb.of_mem_corners hr) hgex hgey hgez⟩

/-- A moved box holds what was in the box, moved. -/
theorem Holds.moved (hold : b.Holds p) (hb : b.Finite) (hp : p.Finite) {m : Mat4 Exact}
    (hm : m.Finite) : (b.moved m).Holds (m.apply p) := by
  rw [Bounds.moved, hold.isEmpty_eq_false, if_neg Bool.false_ne_true, m.apply_eq]
  have hcorner : ∀ q ∈ b.corners, (enclosing (b.corners.map m.apply)).Holds
      ⟨m.rowX.form q, m.rowY.form q, m.rowZ.form q⟩ := by
    intro q hq
    rw [← m.apply_eq]
    exact holds_enclosing (List.mem_map_of_mem hq)
  -- which corners come lowest and highest differs from axis to axis
  obtain ⟨qx, hqx, rx, hrx, hlex, hgex⟩ := exists_corners hb hp hold hm.rowX
  obtain ⟨qy, hqy, ry, hry, hley, hgey⟩ := exists_corners hb hp hold hm.rowY
  obtain ⟨qz, hqz, rz, hrz, hlez, hgez⟩ := exists_corners hb hp hold hm.rowZ
  constructor
  · exact ⟨(hcorner qx hqx).1.1.trans hlex, (hcorner qy hqy).1.2.1.trans hley,
      (hcorner qz hqz).1.2.2.trans hlez⟩
  · exact ⟨hgex.trans (hcorner rx hrx).2.1, hgey.trans (hcorner ry hry).2.2.1,
      hgez.trans (hcorner rz hrz).2.2.2⟩

end Bounds

end Scenery
