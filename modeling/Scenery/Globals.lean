import Scenery.Journal
import Scenery.Json.Vector

/-!
# Settings of the whole scene

The globals are the background, the ambient light, and perhaps fog and a sky.
They are read as one record.  If it does not convert, all of them are as in a
document that says nothing, and the problem is told.
-/

namespace Scenery

/-- Fog between two distances. -/
structure Fog (α : Type) where
  /-- The color. -/
  color : Color α
  /-- Where it starts. -/
  near : α
  /-- Where nothing is seen any more. -/
  far : α

/-- A cube with the sky on its six faces, each a file. -/
structure Skybox (α : Type) where
  /-- The size. -/
  size : Vec3 α
  /-- The middle. -/
  center : Vec3 α
  /-- The color of its light. -/
  emissive : Color α
  /-- How bright it is. -/
  intensity : α
  /-- The face in front. -/
  front : String
  /-- The face behind. -/
  back : String
  /-- The face above. -/
  up : String
  /-- The face below. -/
  down : String
  /-- The face to the left. -/
  left : String
  /-- The face to the right. -/
  right : String

/-- Settings of the whole scene. -/
structure Globals (α : Type) where
  /-- The color behind everything. -/
  background : Color α
  /-- The light from everywhere. -/
  ambient : Color α
  /-- The fog. -/
  fog : Option (Fog α)
  /-- The sky. -/
  skybox : Option (Skybox α)

namespace Globals

open Json.Decode

/-- The ambient light of a document that says nothing. -/
def usualAmbient : Color Float32 := .grey 0.2

/-- The settings of a document that says nothing. -/
def usual : Globals Float32 := ⟨.black, usualAmbient, none, none⟩

/-- The fog of a JSON value. -/
def decodeFog : Json.Decoder (Fog Float32) :=
  record .fewer "Fog"
    (.mk <$> required "color" color <*> required "near" number <*> required "far" number)

/-- The sky of a JSON value. -/
def decodeSkybox : Json.Decoder (Skybox Float32) :=
  record .fewer "Skybox"
    (.mk <$> required "size" xyz <*> required "center" xyz <*>
      withDefault "emissive" color .white <*> withDefault "intensity" number 1 <*>
      required "front" text <*> required "back" text <*> required "up" text <*>
      required "down" text <*> required "left" text <*> required "right" text)

/-- The settings of a JSON value. -/
def decode : Json.Decoder (Globals Float32) :=
  record .fewer "Globals"
    (.mk <$> withDefault "background" color .black <*> withDefault "ambient" color usualAmbient <*>
      withDefault "fog" (nullable decodeFog) none <*>
      withDefault "skybox" (nullable decodeSkybox) none)

/-- The settings of a section. -/
def ofSection (entries : Json.Members) (journal : Journal) : Globals Float32 × Journal :=
  match decode (.object entries) with
  | .ok globals => (globals, journal)
  | .error e => (usual, journal.add (.malformed .globals Part.globals.name e.message))

end Globals

end Scenery
