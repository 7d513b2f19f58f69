import Scenery.Journal
import Scenery.Json.Vector

/-!
# Cameras

A camera stands at a place, looks at another and has a lens.  Which lens decides
what else is declared of it, so its declaration is read in two steps: the member
`type` first, wherever it is written, and then the rest as a record of that
lens.  An array gives the type as its first item.

An array with too many items is told here by the number there should be, also in
the vectors of a camera.

The section also names the camera to start with, under the key `initial`.
-/

namespace Scenery

/-- What a camera sees. -/
inductive Lens (α : Type) where
  /-- A pyramid with a vertical angle in degrees. -/
  | perspective (angle near far : α)
  /-- A box. -/
  | orthogonal (near far left right bottom top : α)

/-- A camera. -/
structure Camera (α : Type) where
  /-- Where it stands. -/
  location : Vec3 α
  /-- What it looks at. -/
  target : Vec3 α
  /-- What it sees. -/
  lens : Lens α

/-- The kinds of lenses. -/
inductive LensKind where
  | perspective
  | orthogonal
deriving DecidableEq, Repr

namespace LensKind

/-- A kind as it is written. -/
def name : LensKind → String
  | .perspective => "perspective"
  | .orthogonal => "orthogonal"

/-- A kind as it is named in messages. -/
def title : LensKind → String
  | .perspective => "Perspective"
  | .orthogonal => "Orthogonal"

/-- All kinds. -/
def all : List LensKind := [.perspective, .orthogonal]

/-- The kind of a name. -/
def ofName? (name : String) : Option LensKind := all.find? fun kind => kind.name == name

end LensKind

namespace Camera

open Json.Decode

/-- A place. -/
def place : Json.Decoder (Vec3 Float32) := vec3 .exactly

/-- The fields of a camera with a kind of lens. -/
def fields : LensKind → Fields (Camera Float32)
  | .perspective =>
      (fun angle near far location target => ⟨location, target, .perspective angle near far⟩) <$>
        required "angle" number <*> required "near" number <*> required "far" number <*>
        required "location" place <*> required "target" place
  | .orthogonal =>
      (fun near far location target left right bottom top =>
        ⟨location, target, .orthogonal near far left right bottom top⟩) <$>
        required "near" number <*> required "far" number <*> required "location" place <*>
        required "target" place <*> required "left" number <*> required "right" number <*>
        required "bottom" number <*> required "top" number

/-- The member that tells the kind of lens. -/
def kindKey : String := "type"

/-- The kind of lens that is written. -/
def decodeKind : Json.Decoder LensKind
  | .string written =>
      match LensKind.ofName? written with
      | some kind => .ok kind
      | none => .error (.unknownTag written (LensKind.all.map LensKind.name))
  | other => .error (.wrongKind other "variant identifier")

/-- The camera of a JSON value. -/
def decode : Json.Decoder (Camera Float32)
  | .object members =>
      match members.lookup kindKey with
      | none => .error (.missing kindKey)
      | some written => do
          let kind ← decodeKind written
          (fields kind).ofMembers (Json.drop kindKey members)
  | .array [] => .error (.missing kindKey)
  | .array (written :: items) => do
      let kind ← decodeKind written
      (fields kind).ofItems s!"struct variant Camera::{kind.title}"
        (LeftOver.exactly.wanted (fields kind).names.length) items
  | other => .error (.wrongKind other "internally tagged enum Camera")

end Camera

/-- The cameras of a document. -/
structure CameraSet (α : Type) where
  /-- The id of the camera to start with, if one is named. -/
  initial : Option String
  /-- The cameras by their ids, in the order of their declaration. -/
  cameras : List (String × Camera α)

namespace CameraSet

/-- The camera of an id. -/
def get? {α : Type} (s : CameraSet α) (id : String) : Option (Camera α) := s.cameras.lookup id

/-- The camera to start with: the one that is named, or else the first. -/
def initialCamera {α : Type} (s : CameraSet α) : Option (Camera α) :=
  match s.initial.bind s.get? with
  | some camera => some camera
  | none => s.cameras.head?.map (·.2)

/-- The key of the camera to start with. -/
def initialKey : String := "initial"

/-- The camera of an entry, or the problem with it. -/
def entry (member : String × Json) : Except Diagnostic (String × Camera Float32) :=
  match Camera.decode member.2 with
  | .ok camera => .ok (member.1, camera)
  | .error e => .error (.malformed .cameras member.1 e.message)

/-- Go on with the next entry of the section. -/
def addEntry (acc : CameraSet Float32 × Journal) (member : String × Json) :
    CameraSet Float32 × Journal :=
  if member.1 = initialKey then ({ acc.1 with initial := member.2.text? }, acc.2)
  else
    match entry member with
    | .ok camera => ({ acc.1 with cameras := acc.1.cameras ++ [camera] }, acc.2)
    | .error problem => (acc.1, acc.2.add problem)

/-- The note about a camera to start with that is not declared. -/
def undefined? {α : Type} (s : CameraSet α) : Option Note :=
  s.initial.bind fun id => if (s.get? id).isNone then some (.initialCameraUndefined id) else none

/-- The cameras of a section. -/
def ofSection (members : Json.Members) (journal : Journal) : CameraSet Float32 × Journal :=
  let read := members.foldl addEntry (⟨none, []⟩, journal)
  match read.1.undefined? with
  | none => read
  | some told => (read.1, read.2.note told)

end CameraSet

end Scenery
