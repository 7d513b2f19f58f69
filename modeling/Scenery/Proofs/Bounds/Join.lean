import Mathlib.Order.Bounds.Basic
import Scenery.Proofs.Bounds

/-!
# Boxes in order

A box is at most another if its corners are within the other's.  The union of two boxes is
the least box that both are at most, and the empty box is at most every box.  So the laws of
the union are those of a join with a bottom, and the library has them.

A point is a box of its own, and growing a box by a point is a union with that box.  So the
box around some points is at most a box exactly if that box holds all the points
(`Bounds.enclosing_le_iff`).  This one fact says what the box around some points is, and
that it depends on nothing but which points they are.  In the same way the union of some
boxes depends on nothing but which boxes they are (`Bounds.foldl_union_le_iff`).

All this is about comparing coordinates.  The points may be at infinity as well.
-/

namespace Scenery

variable {α : Type} [OrderedScalar α]

namespace Bounds

variable {a b c : Bounds α} {p : Vec3 α} {points more : List (Vec3 α)} {boxes : List (Bounds α)}

/-! ## The order -/

instance : PartialOrder (Bounds α) where
  le a b := b.low ≤ a.low ∧ a.high ≤ b.high
  le_refl _ := ⟨le_rfl, le_rfl⟩
  le_trans _ _ _ h k := ⟨k.1.trans h.1, h.2.trans k.2⟩
  le_antisymm _ _ h k := Bounds.ext (k.1.antisymm h.1) (h.2.antisymm k.2)

instance : SemilatticeSup (Bounds α) where
  sup := union
  le_sup_left _ _ := ⟨inf_le_left, le_sup_left⟩
  le_sup_right _ _ := ⟨inf_le_right, le_sup_right⟩
  sup_le _ _ _ h k := ⟨le_inf h.1 k.1, sup_le h.2 k.2⟩

instance : OrderBot (Bounds α) where
  bot := empty
  bot_le b := ⟨le_low_empty b.low, high_empty_le b.high⟩

theorem union_eq_sup (a b : Bounds α) : a.union b = a ⊔ b := rfl

theorem empty_eq_bot : (empty : Bounds α) = ⊥ := rfl

/-- The box of one point. -/
def ofPoint (p : Vec3 α) : Bounds α := ⟨p, p⟩

theorem ofPoint_le_iff : ofPoint p ≤ b ↔ b.Holds p := Iff.rfl

theorem grow_eq_union (b : Bounds α) (p : Vec3 α) : b.grow p = b.union (ofPoint p) := rfl

/-- A box is empty if it holds no point. -/
theorem isEmpty_eq_false_iff : b.isEmpty = false ↔ ∃ p, b.Holds p := by
  constructor
  · intro h
    simp only [isEmpty, Bool.or_eq_false_iff, decide_eq_false_iff_not, not_lt] at h
    exact ⟨b.low, le_rfl, h.1.1, h.1.2, h.2⟩
  · intro h
    obtain ⟨p, hp⟩ := h
    exact hp.isEmpty_eq_false

/-- A box that holds anything is at most another exactly if the other holds all that it holds. -/
theorem le_iff_holds (h : a.isEmpty = false) : a ≤ b ↔ ∀ p, a.Holds p → b.Holds p := by
  obtain ⟨p, hlow, hhigh⟩ := isEmpty_eq_false_iff.mp h
  have hcorners : a.low ≤ a.high := hlow.trans hhigh
  constructor
  · intro hle p hp
    exact ⟨hle.1.trans hp.1, hp.2.trans hle.2⟩
  · intro hall
    exact ⟨(hall a.low ⟨le_rfl, hcorners⟩).1, (hall a.high ⟨hcorners, le_rfl⟩).2⟩

/-! ## Unions of boxes -/

theorem foldl_union_le_iff : boxes.foldl union a ≤ c ↔ a ≤ c ∧ ∀ b ∈ boxes, b ≤ c := by
  induction boxes generalizing a with
  | nil => simp
  | cons b boxes ih =>
      rw [List.foldl_cons, ih, union_eq_sup, sup_le_iff, List.forall_mem_cons, and_assoc]

/-- The order of some boxes makes no difference to their union. -/
theorem foldl_union_perm {others : List (Bounds α)} (h : boxes.Perm others) (a : Bounds α) :
    boxes.foldl union a = others.foldl union a :=
  eq_of_forall_ge_iff fun c => by simp only [foldl_union_le_iff, h.mem_iff]

/-! ## Boxes around points -/

theorem enclosing_le_iff : enclosing points ≤ c ↔ ∀ p ∈ points, c.Holds p := by
  have hfold : enclosing points = (points.map ofPoint).foldl union empty := by
    simp only [enclosing, List.foldl_map, ← grow_eq_union]
  rw [hfold, foldl_union_le_iff, empty_eq_bot, List.forall_mem_map]
  simp only [bot_le, true_and, ofPoint_le_iff]

/-- The box around some points is the least one that holds them. -/
theorem isLeast_enclosing (points : List (Vec3 α)) :
    IsLeast {b : Bounds α | ∀ p ∈ points, b.Holds p} (enclosing points) :=
  ⟨fun _ hp => holds_enclosing hp, fun _ hb => enclosing_le_iff.mpr hb⟩

/-- It is empty only if there are none. -/
theorem isEmpty_enclosing_iff : (enclosing points).isEmpty = true ↔ points = [] := by
  cases points with
  | nil => exact iff_of_true isEmpty_empty rfl
  | cons p points =>
      have hfull := (holds_enclosing (List.mem_cons_self (a := p) (l := points))).isEmpty_eq_false
      simp [hfull]

/-- It depends on nothing but which points they are. -/
theorem enclosing_congr (h : ∀ p, p ∈ points ↔ p ∈ more) : enclosing points = enclosing more :=
  eq_of_forall_ge_iff fun c => by simp only [enclosing_le_iff, h]

theorem enclosing_append (points more : List (Vec3 α)) :
    enclosing (points ++ more) = (enclosing points).union (enclosing more) :=
  eq_of_forall_ge_iff fun c => by
    rw [union_eq_sup, sup_le_iff, enclosing_le_iff, enclosing_le_iff, enclosing_le_iff,
      List.forall_mem_append]

end Bounds

end Scenery
