import Scenery.Json.Decode
import Scenery.Color

/-!
# Vectors and colors in JSON

Vectors are records of their components, all of which may be left out and are
zero then.  Colors likewise, and are opaque unless they say otherwise.
-/

namespace Scenery.Json.Decode

/-- A vector in space. -/
def vec3 (rule : LeftOver) : Decoder (Vec3 Float32) :=
  record rule "Xyz"
    (.mk <$> withDefault "x" number 0 <*> withDefault "y" number 0 <*> withDefault "z" number 0)

/-- A vector in space, outside of a camera. -/
def xyz : Decoder (Vec3 Float32) := vec3 .fewer

/-- A vector in the plane. -/
def xy : Decoder (Vec2 Float32) :=
  record .fewer "Xy" (.mk <$> withDefault "x" number 0 <*> withDefault "y" number 0)

/-- A color. -/
def color : Decoder (Color Float32) :=
  record .fewer "Rgba"
    (.mk <$> withDefault "r" number 0 <*> withDefault "g" number 0 <*> withDefault "b" number 0 <*>
      withDefault "a" number 1)

end Scenery.Json.Decode
