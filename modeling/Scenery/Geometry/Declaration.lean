import Scenery.Geometry.Basic
import Scenery.Json.Vector
import Scenery.Text.Lowercase

/-!
# Declarations of geometries

A geometry is declared as an object with a `type`, its tag, and the fields of
that tag.  Tags are read in any case.  A declaration without a tag, with a tag
that is not known, or with fields that do not convert declares nothing.

The tables of fields below are in the order in which an array may give them.
-/

namespace Scenery

/-- Why a declaration is no geometry. -/
inductive DeclarationError where
  /-- There is no tag. -/
  | missingTag
  /-- The tag is not known. -/
  | unknownTag (tag : String)
  /-- The fields do not convert. -/
  | invalid (tag : Tag) (cause : Json.DecodeError)

/-- The words for a declaration that is no geometry. -/
def DeclarationError.message : DeclarationError → String
  | .missingTag => "declaration has no 'type'"
  | .unknownTag tag => s!"unknown type '{tag}'"
  | .invalid tag cause => s!"invalid {tag.name}: {cause.message}"

namespace Geometry

open Json Json.Decode

/-! ## Figures -/

/-- The fields of a rectangle. -/
def rectangleFields : Fields (Rectangle Float32) :=
  .mk <$> required "xy1" xy <*> required "xy2" xy <*> withDefault "parts_x" count 1 <*>
    withDefault "parts_y" count 1

/-- The fields of a triangle. -/
def triangleFields : Fields (Triangle Float32) :=
  .mk <$> required "xyz1" xyz <*> required "xyz2" xyz <*> required "xyz3" xyz

/-- The fields of a box. -/
def boxFields : Fields (Box Float32) :=
  .mk <$> required "xyz1" xyz <*> required "xyz2" xyz <*> withDefault "parts_x" count 1 <*>
    withDefault "parts_y" count 1 <*> withDefault "parts_z" count 1

/-- The fields of a sphere.  Without angles it is a whole one. -/
def sphereFields : Fields (Sphere Float32) :=
  .mk <$> required "radius" number <*> required "slices" count <*> required "stacks" count <*>
    withDefault "thetastart" number 0 <*> withDefault "thetalength" number 180 <*>
    withDefault "phistart" number 0 <*> withDefault "philength" number 360

/-- The fields of a cylinder.  Without angles it goes all around. -/
def cylinderFields : Fields (Cylinder Float32) :=
  .mk <$> required "base" number <*> required "top" number <*> required "height" number <*>
    required "slices" count <*> required "stacks" count <*> withDefault "capsclose" flag false <*>
    withDefault "thetastart" number 0 <*> withDefault "thetalength" number 360

/-- The fields of a polygon. -/
def polygonFields : Fields (Polygon Float32) :=
  .mk <$> required "radius" number <*> required "stacks" count <*> required "slices" count <*>
    required "color_c" color <*> required "color_p" color

/-- The fields of a patch. -/
def patchFields : Fields (Patch Float32) :=
  .mk <$> required "degree_u" count <*> required "degree_v" count <*> required "parts_u" count <*>
    required "parts_v" count <*> required "controlpoints" (list xyz)

/-- The fields of a cone that shows a video. -/
def videoFields : Fields (Video Float32) :=
  .mk <$> required "textureref" text <*> required "radius" number <*> required "height" number <*>
    withDefault "slices" count 32 <*> withDefault "stacks" count 1 <*>
    withDefault "fade_start" number 1

/-! ## Lamps -/

/-- The fields of a lamp that shines all around. -/
def pointLightFields : Fields (Lamp Float32) :=
  (fun enabled color intensity distance decay position castShadow shadowFar shadowMapSize =>
    ⟨⟨enabled, color, intensity, position, castShadow, shadowFar, shadowMapSize⟩,
      .point distance decay⟩) <$>
    withDefault "enabled" flag true <*> required "color" color <*>
    withDefault "intensity" number 1 <*> withDefault "distance" number 1000 <*>
    withDefault "decay" number 2 <*> required "position" xyz <*>
    withDefault "castshadow" flag false <*> withDefault "shadowfar" number 500 <*>
    withDefault "shadowmapsize" count 512

/-- The fields of a lamp that lights a cone. -/
def spotLightFields : Fields (Lamp Float32) :=
  (fun enabled color intensity distance decay position target angle penumbra castShadow shadowFar
      shadowMapSize =>
    ⟨⟨enabled, color, intensity, position, castShadow, shadowFar, shadowMapSize⟩,
      .spot distance decay angle penumbra target⟩) <$>
    withDefault "enabled" flag true <*> required "color" color <*>
    withDefault "intensity" number 1 <*> withDefault "distance" number 1000 <*>
    withDefault "decay" number 2 <*> required "position" xyz <*> required "target" xyz <*>
    required "angle" number <*> withDefault "penumbra" number 1 <*>
    withDefault "castshadow" flag false <*> withDefault "shadowfar" number 500 <*>
    withDefault "shadowmapsize" count 512

/-- The fields of a lamp that lights everything in one direction. -/
def directionalLightFields : Fields (Lamp Float32) :=
  (fun enabled color intensity position castShadow left right bottom top shadowFar
      shadowMapSize =>
    ⟨⟨enabled, color, intensity, position, castShadow, shadowFar, shadowMapSize⟩,
      .directional left right bottom top⟩) <$>
    withDefault "enabled" flag true <*> required "color" color <*>
    withDefault "intensity" number 1 <*> required "position" xyz <*>
    withDefault "castshadow" flag false <*> withDefault "shadowleft" number (-5) <*>
    withDefault "shadowright" number 5 <*> withDefault "shadowbottom" number (-5) <*>
    withDefault "shadowtop" number 5 <*> withDefault "shadowfar" number 500 <*>
    withDefault "shadowmapsize" count 512

/-! ## Declarations -/

/-- The geometry of a tag, from its fields. -/
def decode (tag : Tag) : Decoder (Geometry Float32) :=
  let figure {β : Type} (name : String) (fields : Fields β) (make : β → Figure Float32) :
      Decoder (Geometry Float32) :=
    fun j => (record .fewer name fields j).map fun g => .figure (make g)
  let lamp (name : String) (fields : Fields (Lamp Float32)) : Decoder (Geometry Float32) :=
    fun j => (record .fewer name fields j).map .lamp
  match tag with
  | .rectangle => figure "RectangleGeometry" rectangleFields .rectangle
  | .triangle => figure "TriangleGeometry" triangleFields .triangle
  | .box => figure "BoxGeometry" boxFields .box
  | .sphere => figure "SphereGeometry" sphereFields .sphere
  | .cylinder => figure "CylinderGeometry" cylinderFields .cylinder
  | .polygon => figure "PolygonGeometry" polygonFields .polygon
  | .nurbs => figure "NurbsGeometry" patchFields .nurbs
  | .video => figure "VideoEmitterGeometry" videoFields .video
  | .pointLight => lamp "PointLightDesc" pointLightFields
  | .spotLight => lamp "SpotLightDesc" spotLightFields
  | .directionalLight => lamp "DirectionalLightDesc" directionalLightFields

/-- The geometry of a declaration. -/
def ofDeclaration (value : Json) : Except DeclarationError (Geometry Float32) :=
  match (value.get? "type").bind Json.text? with
  | none => .error .missingTag
  | some written =>
      let name := Text.lowerLatin written
      match Tag.ofName? name with
      | none => .error (.unknownTag name)
      | some tag => (decode tag value).mapError (.invalid tag)

end Geometry

end Scenery
