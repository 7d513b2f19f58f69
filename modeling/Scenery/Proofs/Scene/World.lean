import Scenery.Proofs.Matrix.Affine
import Scenery.Proofs.Scene.Enclosure
import Scenery.Proofs.Tree

/-!
# Where a scene puts its points

A step of a transform shifts a point, stretches it or turns it (`Step.move`), and a
transform does so with all its steps, the last one first (`Transform.move`).  The matrices
do the same: the matrix of a step puts a point where the step moves it, and since these
matrices are affine, the product of several puts it where they put it one after the other
(`Mat4.apply_along`).

In a scene the transforms of the groups on the way from a top down to a group are put
together in this way once more.  `Scene.lines` lists the groups that are visited, each with
its line, which is the groups on the way to it.  A line is such a way and every way is a line
(`Scene.mem_lines_iff`).  The matrix of a group in the world is the product along its line,
so it moves a point by the groups of the line, the innermost first (`Scene.composes`).

How angles become quaternions is of no account here, so all this is shown for any choice
of a quaternion for three angles.  The choice the program makes is a case of it.
-/

namespace Scenery

variable {α : Type}

/-! ## Products of matrices -/

namespace Mat4

variable {β : Type} [FieldScalar α] {place : β → Mat4 α}

/-- The product of the matrices of some items, the first one outermost. -/
def along (place : β → Mat4 α) (items : List β) : Mat4 α :=
  items.foldl (fun m item => m * place item) identity

theorem along_concat (place : β → Mat4 α) (items : List β) (item : β) :
    along place (items ++ [item]) = along place items * place item := by
  rw [along, List.foldl_append]
  rfl

theorem affine_along (h : ∀ item, (place item).Affine) (items : List β) :
    (along place items).Affine := by
  induction items using List.reverseRecOn with
  | nil => exact affine_identity
  | append_singleton items item ih =>
      rw [along_concat]
      exact ih.mul (h item)

/-- A product of affine matrices puts a point where they put it one after the other, the
last one first. -/
theorem apply_along {move : β → Vec3 α → Vec3 α} (h : ∀ item, (place item).Affine)
    (hmove : ∀ item p, (place item).apply p = move item p) (items : List β) :
    ∀ p, (along place items).apply p = items.foldr move p := by
  induction items using List.reverseRecOn with
  | nil =>
      intro p
      exact apply_identity p
  | append_singleton items item ih =>
      intro p
      rw [along_concat, apply_mul _ (h item), ih, hmove, List.foldr_append]
      rfl

end Mat4

/-! ## Transforms -/

section Transforms

variable [FieldScalar α] (turn : Vec3 α → Quat α)

/-- Where a step moves a point, for a choice of quaternions. -/
def Step.move (step : Step α) (p : Vec3 α) : Vec3 α :=
  match step.kind with
  | .translate => p + step.amount
  | .rotate => (Mat4.rotation (turn step.amount)).linear p
  | .scale => ⟨p.x * step.amount.x, p.y * step.amount.y, p.z * step.amount.z⟩

/-- Where a transform moves a point, for a choice of quaternions: the last step is the first
that the point undergoes. -/
def Transform.move (t : Transform α) (p : Vec3 α) : Vec3 α := t.steps.foldr (Step.move turn) p

/-- The matrix of a step, for a choice of quaternions. -/
def Step.matrixBy (step : Step α) : Mat4 α :=
  match step.kind with
  | .translate => .shifting step.amount
  | .rotate => .rotation (turn step.amount)
  | .scale => .scaling step.amount

/-- The matrix of a transform, for a choice of quaternions. -/
def Transform.matrixBy (t : Transform α) : Mat4 α := Mat4.along (Step.matrixBy turn) t.steps

theorem Step.affine_matrixBy (step : Step α) : (step.matrixBy turn).Affine := by
  unfold matrixBy
  cases step.kind with
  | translate => exact Mat4.affine_shifting _
  | rotate => exact Mat4.affine_rotation _
  | scale => exact Mat4.affine_scaling _

theorem Step.apply_matrixBy (step : Step α) (p : Vec3 α) :
    (step.matrixBy turn).apply p = step.move turn p := by
  unfold matrixBy move
  cases step.kind with
  | translate => exact Mat4.apply_shifting _ p
  | rotate => exact Mat4.apply_rotation _ p
  | scale => exact Mat4.apply_scaling _ p

theorem Transform.affine_matrixBy (t : Transform α) : (t.matrixBy turn).Affine :=
  Mat4.affine_along (Step.affine_matrixBy turn) t.steps

theorem Transform.apply_matrixBy (t : Transform α) (p : Vec3 α) :
    (t.matrixBy turn).apply p = t.move turn p :=
  Mat4.apply_along (Step.affine_matrixBy turn) (Step.apply_matrixBy turn) t.steps p

/-- A shift outside of a stretch is not stretched. -/
example : (⟨[⟨.translate, ⟨1, 0, 0⟩⟩, ⟨.scale, ⟨2, 2, 2⟩⟩]⟩ : Transform ℚ).move
    (fun _ => .identity) ⟨1, 1, 0⟩ = ⟨3, 2, 0⟩ := by
  decide +kernel

end Transforms

theorem Transform.matrixBy_ofDegrees [FieldAngular α] (t : Transform α) :
    t.matrixBy .ofDegrees = t.matrix := rfl

/-! ## Lines -/

namespace Scene

/-- The groups of a scene, parents first, each with those on the way from a top down to it,
itself the last. -/
def lines (s : Scene α) : List (Group α × List (Group α)) :=
  Tree.scanAll (fun line g => line ++ [g]) [] s.trees

/-- The lines of a scene lead to its groups. -/
theorem mem_lines_iff {s : Scene α} {g : Group α} {line : List (Group α)} :
    (g, line) ∈ s.lines ↔ ∃ t, Tree.Leads s.trees line t ∧ t.label = g := by
  simp only [lines, Tree.scanAll_eq_map_withinAll, List.mem_map, Prod.exists, Prod.mk.injEq,
    Tree.mem_withinAll_iff_leads]
  constructor
  · rintro ⟨t, _, h, rfl, rfl⟩
    exact ⟨t, h, rfl⟩
  · rintro ⟨t, h, rfl⟩
    exact ⟨t, line, h, rfl, rfl⟩

theorem visitAt_eq_map_lines [FieldAngular α] (s : Scene α) (place : Group α → Mat4 α) :
    s.visitAt place = s.lines.map fun item => (item.1, Mat4.along place item.2) :=
  Tree.scanAll_image (f := fun (line : List (Group α)) g => line ++ [g])
    (g := fun world g => world * place g) (h := Mat4.along place) (c := [])
    (Mat4.along_concat place) s.trees

/-- Groups with matrices are those of a scene with the way each of them moves a point. -/
structure Composes [FieldScalar α] (turn : Vec3 α → Quat α) (s : Scene α)
    (visited : List (Group α × Mat4 α)) : Prop where
  /-- The groups are those of the lines, in their order.  A matrix puts a point where the
  transforms on the line move it, that of the group itself first and that of the top last. -/
  moves : List.Forall₂
    (fun seen item => seen.1 = item.1 ∧
      ∀ p, seen.2.apply p = item.2.foldr (fun g q => g.transform.move turn q) p)
    visited s.lines
  /-- A line is a way from a top down to the group. -/
  lines : ∀ g line, (g, line) ∈ s.lines ↔ ∃ t, Tree.Leads s.trees line t ∧ t.label = g

/-- Every group is placed by the product of the matrices along its line. -/
theorem composes_visitAt [FieldAngular α] (turn : Vec3 α → Quat α) (s : Scene α) :
    s.Composes turn (s.visitAt fun g => g.transform.matrixBy turn) where
  moves := by
    rw [visitAt_eq_map_lines, List.forall₂_map_left_iff, List.forall₂_same]
    intro item _
    exact ⟨rfl, Mat4.apply_along (fun g => g.transform.affine_matrixBy turn)
      (fun g => g.transform.apply_matrixBy turn) item.2⟩
  lines _ _ := mem_lines_iff

/-- The matrix of a transform moves a point by its steps, and the matrix of a group in the
world moves it by the transforms on the line to the group.  That is so whichever quaternions
stand for the turns, and so for those that are taken of angles in degrees. -/
theorem composes (α : Type) [FieldAngular α] :
    (∀ turn : Vec3 α → Quat α,
      (∀ (t : Transform α) p, (t.matrixBy turn).apply p = t.move turn p) ∧
      ∀ s : Scene α, s.Composes turn (s.visitAt fun g => g.transform.matrixBy turn)) ∧
    (∀ (t : Transform α) p, t.matrix.apply p = t.move .ofDegrees p) ∧
    ∀ s : Scene α, s.Composes .ofDegrees s.visit := by
  refine ⟨fun turn => ⟨?_, ?_⟩, ?_, ?_⟩
  · exact Transform.apply_matrixBy turn
  · exact composes_visitAt turn
  · intro t p
    rw [← t.matrixBy_ofDegrees]
    exact t.apply_matrixBy .ofDegrees p
  · exact composes_visitAt .ofDegrees

end Scene

end Scenery
