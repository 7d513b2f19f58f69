import Std.Data.HashMap
import Scenery.Json.Vector
import Scenery.Material.Basic
import Scenery.Texture.Table

/-!
# The table of materials

Materials are kept under their names in lower case.  A name that is declared
again takes the place of the one before, but only if its declaration converts.

The textures a material asks for are looked up when it is declared.  One that is
not in the table of textures is told and left out.
-/

namespace Scenery

/-- Materials by their names. -/
structure MaterialTable (α : Type) where
  /-- The material of each name. -/
  entries : Std.HashMap String (Material α)

namespace MaterialTable

variable {α : Type}

/-- The table without materials. -/
def empty : MaterialTable α := ⟨∅⟩

/-- Put in a material under its name in lower case. -/
def insert (t : MaterialTable α) (m : Material α) : MaterialTable α × Material α :=
  let m := { m with name := Text.lower m.name }
  (⟨t.entries.insert m.name m⟩, m)

/-- The material of a name in lower case. -/
def lookup (t : MaterialTable α) (name : String) : Option (MaterialHandle α) :=
  t.entries[name]?.map fun m => ⟨some name, m⟩

/-- How many materials there are. -/
def size (t : MaterialTable α) : Nat := t.entries.size

/-! ## Declarations -/

/-- A material as it is declared. -/
structure Declaration where
  /-- The color. -/
  color : Color Float32
  /-- The color of reflections. -/
  specular : Color Float32
  /-- The color of its own light. -/
  emissive : Color Float32
  /-- How narrow reflections are. -/
  shininess : Float32
  /-- Whether it lets through what is behind. -/
  transparent : Bool
  /-- How much it covers what is behind. -/
  opacity : Float32
  /-- Whether only edges are seen. -/
  wireframe : Bool
  /-- How light falls on it. -/
  shading : Option String
  /-- The texture of its color. -/
  textureRef : Option String
  /-- The length of that texture along its first axis. -/
  textureLengthS : Float32
  /-- The length of that texture along its second axis. -/
  textureLengthT : Float32
  /-- Whether both sides are seen. -/
  twoSided : Bool
  /-- The texture of its height. -/
  bumpRef : Option String
  /-- How high that is. -/
  bumpScale : Float32
  /-- The texture of its reflections. -/
  specularRef : Option String

namespace Declaration

open Json.Decode in
/-- The declaration of a JSON value. -/
def decode : Json.Decoder Declaration :=
  record .fewer "MaterialDecl"
    (.mk <$> required "color" Json.Decode.color <*>
      withDefault "specular" Json.Decode.color .black <*>
      withDefault "emissive" Json.Decode.color .black <*>
      withDefault "shininess" number Material.usualShininess <*>
      withDefault "transparent" flag false <*> withDefault "opacity" number 1 <*>
      withDefault "wireframe" flag false <*> withDefault "shading" (nullable text) none <*>
      withDefault "textureref" (nullable text) none <*> withDefault "texlength_s" number 1 <*>
      withDefault "texlength_t" number 1 <*> withDefault "twosided" flag false <*>
      withDefault "bumpref" (nullable text) none <*> withDefault "bumpscale" number 1 <*>
      withDefault "specularref" (nullable text) none)

/-- The handle of a reference. -/
def handle? (textures : TextureTable) (reference : Option String) : Option TextureHandle :=
  reference.bind fun written => textures.lookup (Text.lower written)

/-- The problem of a reference that is in no table, for the material that makes
it. -/
def unknown? (textures : TextureTable) (owner : String) (reference : Option String) :
    Option Diagnostic :=
  reference.bind fun written =>
    let id := Text.lower written
    if (textures.lookup id).isNone then some (.unknownTexture owner id) else none

/-- The shading of a declaration, if its name is known. -/
def shading? (d : Declaration) : Option Shading :=
  match d.shading with
  | none => some .smooth
  | some written => Shading.ofName? (Text.lowerLatin written)

/-- The material of a declaration. -/
def resolve (d : Declaration) (id : String) (textures : TextureTable) : Material Float32 where
  name := Text.lower id
  color := d.color
  specular := d.specular
  emissive := d.emissive
  shininess := d.shininess
  transparent := d.transparent
  opacity := d.opacity
  wireframe := d.wireframe
  shading := d.shading?.getD .smooth
  side := if d.twoSided then .double else .front
  texture := (handle? textures d.textureRef).map fun texture =>
    ⟨texture, ⟨1 / d.textureLengthS, 1 / d.textureLengthT⟩⟩
  bumpMap := handle? textures d.bumpRef
  bumpScale := d.bumpScale
  specularMap := handle? textures d.specularRef

/-- What there is to tell about a declaration. -/
def tell (d : Declaration) (id : String) (textures : TextureTable) (journal : Journal) : Journal :=
  let told := ([d.textureRef, d.bumpRef, d.specularRef].filterMap (unknown? textures id)).foldl
    .add journal
  match d.shading, d.shading? with
  | some written, none => told.note (.shadingUnknown id written)
  | _, _ => told

end Declaration

/-- Go on with the next entry of the section. -/
def addEntry (textures : TextureTable) (acc : MaterialTable Float32 × Journal)
    (entry : String × Json) : MaterialTable Float32 × Journal :=
  match Declaration.decode entry.2 with
  | .ok d => ((acc.1.insert (d.resolve entry.1 textures)).1, d.tell entry.1 textures acc.2)
  | .error e => (acc.1, acc.2.add (.malformed .materials entry.1 e.message))

/-- The table of a section, with the textures it may ask for. -/
def ofSection (entries : Json.Members) (textures : TextureTable) (journal : Journal) :
    MaterialTable Float32 × Journal :=
  let read := entries.foldl (addEntry textures) (empty, journal)
  (read.1, read.2.note (.materialsResolved read.1.size))

end MaterialTable

end Scenery
