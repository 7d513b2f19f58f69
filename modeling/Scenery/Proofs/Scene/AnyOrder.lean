import Scenery.Proofs.Bounds.Join
import Scenery.Proofs.Tree
import Scenery.Scene.Basic

/-!
# The box around a scene, in any order

The box around a scene is the union of the boxes around its meshes, each moved to where the
mesh is in the world (`Scene.placements`).  A union does not depend on the order of the boxes.
So the meshes may be visited in any order, and the children of any group may stand in any
order (`Tree.Shuffled`).

Nothing is asked of the matrices.  It does not matter what moving a box comes to, as long as it
comes to the same in both orders.
-/

namespace Scenery

/-! ## Trees with their children in another order -/

namespace Tree

variable {β γ : Type} {ts us : List (Tree β)}

/-- The same trees, but the children at any place, and the trees themselves, may stand in
another order. -/
inductive Shuffled : List (Tree β) → List (Tree β) → Prop where
  | nil : Shuffled [] []
  | node {l : β} {inner inner' ts us : List (Tree β)} (below : Shuffled inner inner')
      (rest : Shuffled ts us) : Shuffled (.node l inner :: ts) (.node l inner' :: us)
  | swap {t s : Tree β} {ts : List (Tree β)} : Shuffled (t :: s :: ts) (s :: t :: ts)
  | trans {ts us vs : List (Tree β)} : Shuffled ts us → Shuffled us vs → Shuffled ts vs

/-- The same labels are listed with the same that comes down to them. -/
theorem Shuffled.perm_scanAll (h : Shuffled ts us) (f : γ → β → γ) (c : γ) :
    (scanAll f c ts).Perm (scanAll f c us) := by
  induction h generalizing c with
  | nil => exact .refl _
  | node _ _ ihBelow ihRest =>
      rw [scanAll, scanAll, scan, scan]
      exact (ihBelow _).cons _ |>.append (ihRest c)
  | swap =>
      rw [scanAll, scanAll, scanAll, scanAll, ← List.append_assoc, ← List.append_assoc]
      exact List.perm_append_comm.append_right _
  | trans _ _ ihFirst ihSecond => exact (ihFirst c).trans (ihSecond c)

end Tree

/-! ## Boxes -/

namespace Bounds

/-- What can be relied on when boxes are put together. -/
structure JoinLaws (α : Type) [OrderedScalar α] : Prop where
  /-- A box that is not empty is at most another exactly if it is within it. -/
  within : ∀ a b : Bounds α, a.isEmpty = false → (a ≤ b ↔ ∀ p, a.Holds p → b.Holds p)
  /-- The box around some points is the least one that holds them. -/
  least : ∀ points : List (Vec3 α), IsLeast {b | ∀ p ∈ points, b.Holds p} (enclosing points)
  /-- It is empty only if there are none. -/
  isEmpty_iff : ∀ points : List (Vec3 α), (enclosing points).isEmpty = true ↔ points = []
  /-- It does not depend on their order and on how often they come. -/
  members : ∀ points more : List (Vec3 α), (∀ p, p ∈ points ↔ p ∈ more) →
    enclosing points = enclosing more
  /-- The box around two lists of points is the union of the boxes around each. -/
  append : ∀ points more : List (Vec3 α),
    enclosing (points ++ more) = (enclosing points).union (enclosing more)
  assoc : ∀ a b c : Bounds α, (a.union b).union c = a.union (b.union c)
  comm : ∀ a b : Bounds α, a.union b = b.union a
  self : ∀ a : Bounds α, a.union a = a
  empty_left : ∀ a : Bounds α, empty.union a = a
  empty_right : ∀ a : Bounds α, a.union empty = a

/-- Boxes over ordered numbers form a semilattice, and the box around points is their least box. -/
theorem joinLaws {α : Type} [OrderedScalar α] : JoinLaws α where
  within _ _ := le_iff_holds
  least := isLeast_enclosing
  isEmpty_iff _ := isEmpty_enclosing_iff
  members _ _ := enclosing_congr
  append := enclosing_append
  assoc := sup_assoc
  comm := sup_comm
  self := sup_idem
  empty_left := bot_sup_eq
  empty_right := sup_bot_eq

end Bounds

/-! ## Scenes -/

namespace Scene

section

variable {α : Type} [Angular α]

/-- The meshes of a scene with their matrices in the world, in the order they are visited. -/
def placements (s : Scene α) : List (MeshInstance α × Mat4 α) :=
  s.visit.flatMap fun (g, world) => g.meshes.map fun i => (i, world * i.localMatrix)

/-- The box around a mesh that is placed by a matrix. -/
def boundsOf (placement : MeshInstance α × Mat4 α) : Bounds α :=
  placement.1.mesh.bounds.moved placement.2

/-- The bounds of a scene are the union of the boxes around its placed meshes. -/
theorem worldBounds_eq (s : Scene α) :
    s.worldBounds = (s.placements.map boundsOf).foldl .union .empty := by
  simp only [worldBounds, placements, List.map_flatMap, List.map_map]
  rfl

/-- Shuffling the trees of a scene permutes its placed meshes. -/
theorem perm_placements {s t : Scene α} (h : Tree.Shuffled s.trees t.trees) :
    s.placements.Perm t.placements :=
  (h.perm_scanAll _ _).flatMap_right _

end

/-- The order of its meshes makes no difference to the box around a scene. -/
structure AnyOrder {α : Type} [OrderedAngular α] (s : Scene α) : Prop where
  /-- The box is the least one that the boxes around all meshes are within. -/
  least : IsLUB {b | ∃ placement ∈ s.placements, b = boundsOf placement} s.worldBounds
  /-- It comes out the same in whatever order the meshes are visited. -/
  visits : ∀ order : List (MeshInstance α × Mat4 α), order.Perm s.placements →
    (order.map boundsOf).foldl .union .empty = s.worldBounds
  /-- It is also that of the scene with the children of its groups in another order. -/
  shuffled : ∀ t : Scene α, Tree.Shuffled s.trees t.trees → t.worldBounds = s.worldBounds

variable {α : Type} [OrderedAngular α]

/-- A box has the bounds of a scene in it exactly if it has every placed mesh in it. -/
theorem worldBounds_le_iff {s : Scene α} {c : Bounds α} :
    s.worldBounds ≤ c ↔ ∀ placement ∈ s.placements, boundsOf placement ≤ c := by
  rw [worldBounds_eq, Bounds.foldl_union_le_iff, List.forall_mem_map]
  exact and_iff_right bot_le

/-- The bounds of a scene do not depend on the order in which it is visited. -/
theorem anyOrder (s : Scene α) : s.AnyOrder where
  least := by
    constructor
    · rintro b ⟨placement, hmem, rfl⟩
      exact worldBounds_le_iff.mp le_rfl placement hmem
    · intro c hc
      exact worldBounds_le_iff.mpr fun placement hmem => hc ⟨placement, hmem, rfl⟩
  visits order h := by
    rw [worldBounds_eq]
    exact Bounds.foldl_union_perm (h.map boundsOf) .empty
  shuffled t h := by
    rw [worldBounds_eq, worldBounds_eq]
    exact Bounds.foldl_union_perm ((perm_placements h).symm.map boundsOf) .empty

/-- Over numbers in order, the box around some points is the least that holds them, unions of
boxes are joins, and so the box around a scene is the same in any order. -/
theorem worldBounds_in_any_order :
    Bounds.JoinLaws α ∧ ∀ s : Scene α, s.AnyOrder :=
  ⟨Bounds.joinLaws, anyOrder⟩

end Scene

end Scenery
