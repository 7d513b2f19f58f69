import Mathlib.Data.List.Induction
import Mathlib.Data.List.Perm.Subperm
import Scenery.Transform

/-!
# Which steps a transform keeps

A step that is put into a transform takes the place of any other of its kind, and the place is
at the end.  So the steps of a transform are moved about for as long as there are more to come.
What they come to can be read off the declared list at once: a step stays if no other of its
kind stands behind it, and the steps that stay keep their order (`Transform.lastOfKinds`).

The two agree because putting a step in does the same to both (`lastOfKinds_append_singleton`):
a step at the end of a list takes from those before it just the one that is no longer the last
of its kind.  `Transform.keepsLast_ofSteps` says what follows for the parts of a transform.
-/

namespace Scenery

/-- Steps of different kinds are three at most. -/
theorem StepKind.length_le_of_nodup {kinds : List StepKind} (h : kinds.Nodup) :
    kinds.length ≤ 3 := by
  have hall : kinds ⊆ [.translate, .rotate, .scale] := by
    intro kind _
    cases kind <;> decide
  exact (h.subperm hall).length_le

namespace Transform

variable {α : Type}

/-- The steps behind which there is none of their kind, in order. -/
def lastOfKinds : List (Step α) → List (Step α)
  | [] => []
  | step :: rest =>
      if rest.any fun other => other.kind == step.kind then lastOfKinds rest
      else step :: lastOfKinds rest

/-- A step stands at a place of a list behind which there is none of its kind. -/
def StandsLast (step : Step α) (steps : List (Step α)) : Prop :=
  ∃ before after, steps = before ++ step :: after ∧ ∀ other ∈ after, other.kind ≠ step.kind

/-- The amount of the last of several steps of one kind. -/
def lastAmount? (kind : StepKind) (steps : List (Step α)) : Option (Vec3 α) :=
  (steps.filter fun step => step.kind == kind).getLast?.map Step.amount

/-! ## The last steps of a list -/

theorem StandsLast.cons_iff {step first : Step α} {rest : List (Step α)} :
    StandsLast step (first :: rest) ↔
      (step = first ∧ ∀ other ∈ rest, other.kind ≠ step.kind) ∨ StandsLast step rest := by
  constructor
  · rintro ⟨before, after, hsteps, hlast⟩
    cases before with
    | nil =>
        obtain ⟨rfl, rfl⟩ := List.cons.inj hsteps
        exact Or.inl ⟨rfl, hlast⟩
    | cons head before => exact Or.inr ⟨before, after, (List.cons.inj hsteps).2, hlast⟩
  · rintro (⟨rfl, hlast⟩ | ⟨before, after, rfl, hlast⟩)
    · exact ⟨[], rest, rfl, hlast⟩
    · exact ⟨first :: before, after, rfl, hlast⟩

/-- The steps that stay are those that stand last. -/
theorem mem_lastOfKinds {step : Step α} {steps : List (Step α)} :
    step ∈ lastOfKinds steps ↔ StandsLast step steps := by
  induction steps with
  | nil =>
      constructor
      · intro h
        cases h
      · rintro ⟨before, after, hsteps, -⟩
        exact absurd hsteps.symm (List.append_ne_nil_of_right_ne_nil before (by simp))
  | cons first rest ih =>
      have hbehind : (rest.any fun other => other.kind == first.kind) = true ↔
          ∃ other ∈ rest, other.kind = first.kind := by simp
      rw [StandsLast.cons_iff, ← ih, lastOfKinds]
      split
      next h =>
        obtain ⟨other, hother, hkind⟩ := hbehind.mp h
        refine ⟨Or.inr, ?_⟩
        rintro (⟨rfl, hlast⟩ | hrest)
        · exact absurd hkind (hlast other hother)
        · exact hrest
      next h =>
        rw [hbehind, not_exists] at h
        rw [List.mem_cons]
        refine or_congr_left ⟨?_, And.left⟩
        rintro rfl
        exact ⟨rfl, fun other hother hkind => h other ⟨hother, hkind⟩⟩

/-- The last steps of the kinds are of different kinds. -/
theorem nodup_kinds_lastOfKinds (steps : List (Step α)) :
    ((lastOfKinds steps).map Step.kind).Nodup := by
  induction steps with
  | nil => exact List.nodup_nil
  | cons first rest ih =>
      rw [lastOfKinds]
      split
      next => exact ih
      next hlast =>
        rw [List.map_cons, List.nodup_cons]
        refine ⟨?_, ih⟩
        rw [List.mem_map]
        rintro ⟨other, hother, hkind⟩
        obtain ⟨before, after, rfl, -⟩ := mem_lastOfKinds.mp hother
        exact hlast (by simp [hkind])

/-- One more step takes the place of the last one of its kind. -/
theorem lastOfKinds_append_singleton (steps : List (Step α)) (step : Step α) :
    lastOfKinds (steps ++ [step]) =
      ((lastOfKinds steps).filter fun other => other.kind != step.kind) ++ [step] := by
  induction steps with
  | nil => rfl
  | cons first rest ih =>
      rw [List.cons_append, lastOfKinds, lastOfKinds, List.any_append, ih]
      by_cases hrest : (rest.any fun other => other.kind == first.kind) = true
      · simp [hrest]
      · by_cases hkind : step.kind = first.kind
        · simp [hrest, hkind]
        · simp [hrest, hkind, Ne.symm hkind]

/-- The one step of a kind that stays is the last one of that kind. -/
theorem find?_lastOfKinds (kind : StepKind) (steps : List (Step α)) :
    ((lastOfKinds steps).find? fun step => step.kind == kind) =
      (steps.filter fun step => step.kind == kind).getLast? := by
  induction steps with
  | nil => rfl
  | cons first rest ih =>
      rw [lastOfKinds]
      by_cases hkind : first.kind = kind
      · subst hkind
        rw [List.filter_cons_of_pos (by simp)]
        split
        next hbehind =>
          obtain ⟨other, hother, hsame⟩ := List.any_eq_true.mp hbehind
          have hne : (rest.filter fun step => step.kind == first.kind) ≠ [] :=
            List.ne_nil_of_mem (List.mem_filter.mpr ⟨hother, hsame⟩)
          rw [ih, List.getLast?_cons_of_ne_nil hne]
        next hbehind =>
          have hnone : (rest.filter fun step => step.kind == first.kind) = [] := by
            rw [List.filter_eq_nil_iff]
            intro other hother hsame
            exact hbehind (List.any_eq_true.mpr ⟨other, hother, hsame⟩)
          rw [hnone, List.find?_cons_of_pos (by simp)]
          rfl
      · rw [List.filter_cons_of_neg (by simp [hkind])]
        split
        next => exact ih
        next =>
          rw [List.find?_cons_of_neg (by simp [hkind])]
          exact ih

/-! ## The steps of a transform -/

theorem ofSteps_append_singleton (steps : List (Step α)) (step : Step α) :
    ofSteps (steps ++ [step]) = (ofSteps steps).set step := by
  unfold ofSteps
  rw [List.foldl_append]
  rfl

/-- A transform holds the last steps of its list, by induction from the end of the list. -/
theorem steps_ofSteps (steps : List (Step α)) : (ofSteps steps).steps = lastOfKinds steps := by
  induction steps using List.reverseRecOn with
  | nil => rfl
  | append_singleton steps step ih =>
      rw [ofSteps_append_singleton, lastOfKinds_append_singleton, ← ih]
      rfl

/-- What a transform has of a kind is the amount of the last step of that kind. -/
theorem amount?_ofSteps (steps : List (Step α)) (kind : StepKind) :
    (ofSteps steps).amount? kind = lastAmount? kind steps := by
  unfold amount? lastAmount?
  rw [steps_ofSteps, find?_lastOfKinds]

variable [Angular α]

/-- A transform is made of the last steps of a list. -/
structure KeepsLast (steps : List (Step α)) (t : Transform α) : Prop where
  /-- It keeps the steps behind which there is none of their kind, in their order. -/
  kept : t.steps = lastOfKinds steps
  /-- They are exactly those that stand last. -/
  exact : ∀ step, step ∈ t.steps ↔ StandsLast step steps
  /-- No two of them are of one kind. -/
  distinct : (t.steps.map Step.kind).Nodup
  /-- So they are three at most. -/
  few : t.steps.length ≤ 3
  /-- Its shift is that of the last shift of the list, if there is one. -/
  position : t.position = (lastAmount? .translate steps).getD .zero
  /-- Its turn is that of the last turn. -/
  rotation : t.rotation = ((lastAmount? .rotate steps).map Quat.ofDegrees).getD .identity
  /-- Its stretch is that of the last stretch. -/
  scale : t.scale = (lastAmount? .scale steps).getD .one
  /-- Lists with the same last steps come to the same matrix. -/
  matrix : ∀ others, lastOfKinds others = lastOfKinds steps → (ofSteps others).matrix = t.matrix

/-- The transform of a list of steps keeps the last of each kind, whatever the list. -/
theorem keepsLast_ofSteps (steps : List (Step α)) : KeepsLast steps (ofSteps steps) := by
  have hdistinct : ((ofSteps steps).steps.map Step.kind).Nodup := by
    rw [steps_ofSteps]
    exact nodup_kinds_lastOfKinds steps
  constructor
  case kept => exact steps_ofSteps steps
  case exact =>
    intro step
    rw [steps_ofSteps, mem_lastOfKinds]
  case distinct => exact hdistinct
  case few =>
    rw [← List.length_map (f := Step.kind)]
    exact StepKind.length_le_of_nodup hdistinct
  case position => rw [Transform.position, amount?_ofSteps]
  case rotation => rw [Transform.rotation, amount?_ofSteps]
  case scale => rw [Transform.scale, amount?_ofSteps]
  case matrix =>
    intro others h
    unfold Transform.matrix
    rw [steps_ofSteps, steps_ofSteps, h]

end Transform

end Scenery
