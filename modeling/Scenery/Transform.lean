import Scenery.Matrix

/-!
# Local transforms

A node declares a list of steps, each of which shifts, turns or stretches.  Its
transform keeps at most one step of each kind: a later step takes the place of
an earlier one of its kind, and the place is at the end (`Transform.set`).

The steps of a transform make one matrix, the first step outermost.  So the last
step is the first that a point undergoes.
-/

namespace Scenery

/-- The kinds of steps. -/
inductive StepKind where
  | translate
  | rotate
  | scale
deriving DecidableEq, Repr

namespace StepKind

/-- The kind of a tag in lower case. -/
def ofName? (name : String) : Option StepKind :=
  if name = "translate" then some .translate
  else if name = "rotate" then some .rotate
  else if name = "scale" then some .scale
  else none

/-- What a step does along an axis it does not mention. -/
def neutral {α : Type} [Scalar α] : StepKind → α
  | .scale => 1
  | .translate | .rotate => 0

end StepKind

/-- A step of a transform.  The amount of a turn is three angles in degrees. -/
structure Step (α : Type) where
  /-- What the step does. -/
  kind : StepKind
  /-- How far it goes along, or about, each axis. -/
  amount : Vec3 α
deriving DecidableEq, Repr

/-- The matrix of a step. -/
def Step.matrix {α : Type} [Angular α] (step : Step α) : Mat4 α :=
  match step.kind with
  | .translate => .shifting step.amount
  | .rotate => .rotation (.ofDegrees step.amount)
  | .scale => .scaling step.amount

/-- A local transform. -/
structure Transform (α : Type) where
  /-- Its steps, the outermost first. -/
  steps : List (Step α)
deriving DecidableEq, Repr

namespace Transform

variable {α : Type}

/-- The transform that does nothing. -/
def identity : Transform α := ⟨[]⟩

/-- Put a step at the end, in the place of any other of its kind. -/
def set (t : Transform α) (step : Step α) : Transform α :=
  ⟨(t.steps.filter fun other => other.kind != step.kind) ++ [step]⟩

/-- The transform of a list of steps. -/
def ofSteps (steps : List (Step α)) : Transform α := steps.foldl set identity

/-- The amount of the step of a kind. -/
def amount? (t : Transform α) (kind : StepKind) : Option (Vec3 α) :=
  (t.steps.find? fun step => step.kind == kind).map Step.amount

variable [Angular α]

/-- The matrix of a transform. -/
def matrix (t : Transform α) : Mat4 α :=
  t.steps.foldl (fun acc step => acc * step.matrix) .identity

/-- The shift of a transform. -/
def position (t : Transform α) : Vec3 α := (t.amount? .translate).getD .zero

/-- The turn of a transform. -/
def rotation (t : Transform α) : Quat α :=
  ((t.amount? .rotate).map Quat.ofDegrees).getD .identity

/-- The stretch of a transform. -/
def scale (t : Transform α) : Vec3 α := (t.amount? .scale).getD .one

end Transform

end Scenery
