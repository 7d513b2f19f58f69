import Scenery.Json.Decode
import Scenery.Node.Basic
import Scenery.Text.Lowercase

/-!
# Records of nodes

A record is what a document says of one node, before anything above the node is
known.  All its fields may be left out.  Shadow flags that are left out come from
the node above, so a record keeps them as options.

`children` holds two things under one roof: under the key `nodesList` the ids of
the nodes below, and under any other key a geometry.  It is kept as it is
written, since a geometry that does not convert spoils nothing but itself.
-/

namespace Scenery

/-- A step as it is written.  Its amount may leave out axes. -/
structure StepRecord where
  /-- The tag of the step. -/
  tag : String
  /-- How far it goes along, or about, the first axis. -/
  x : Option Float32
  /-- The same for the second axis. -/
  y : Option Float32
  /-- The same for the third axis. -/
  z : Option Float32

/-- The step of a record, if its tag is known.  Tags are read in any case, and an
axis that is left out stays as it is. -/
def StepRecord.step? (r : StepRecord) : Option (Step Float32) :=
  (StepKind.ofName? (Text.lowerLatin r.tag)).map fun kind =>
    ⟨kind, ⟨r.x.getD kind.neutral, r.y.getD kind.neutral, r.z.getD kind.neutral⟩⟩

/-- A node as it is written. -/
structure NodeRecord where
  /-- The declared type. -/
  type : String
  /-- The steps of its transform. -/
  transforms : List StepRecord
  /-- The id of its material. -/
  materialId : Option String
  /-- Whether it casts shadows. -/
  castShadows : Option Bool
  /-- Whether shadows fall on it. -/
  receiveShadows : Option Bool
  /-- The ids of the nodes below and the geometries. -/
  children : Json.Members

namespace NodeRecord

open Json.Decode

/-- The amount of a step, axis by axis. -/
def amount : Json.Decoder (Option Float32 × Option Float32 × Option Float32) :=
  record .fewer "RawAmount"
    ((fun x y z => (x, y, z)) <$> omittable "x" number <*> omittable "y" number <*>
      omittable "z" number)

/-- The fields of a step. -/
def stepFields : Fields StepRecord :=
  (fun tag (x, y, z) => ⟨tag, x, y, z⟩) <$> required "type" text <*>
    withDefault "amount" amount (none, none, none)

/-- The id in a reference to a material. -/
def materialRef : Json.Decoder String :=
  record .fewer "RawMaterialRef" (required "materialId" text)

/-- The fields of a node. -/
def fields : Fields NodeRecord :=
  .mk <$> withDefault "type" text "node" <*>
    withDefault "transforms" (list (record .fewer "RawTransform" stepFields)) [] <*>
    withDefault "materialref" (nullable materialRef) none <*>
    withDefault "castshadows" (nullable flag) none <*>
    withDefault "receiveshadows" (nullable flag) none <*>
    withDefault "children" members []

/-- The record of a JSON value. -/
def decode : Json.Decoder NodeRecord := record .fewer "RawNode" fields

/-- The steps whose tags are known, in order. -/
def steps (r : NodeRecord) : List (Step Float32) := r.transforms.filterMap StepRecord.step?

/-- The tags of steps that are not known, in order. -/
def unknownTags (r : NodeRecord) : List String :=
  (r.transforms.filter fun s => s.step?.isNone).map StepRecord.tag

/-! ## Children -/

/-- The key of the ids of the nodes below. -/
def idsKey : String := "nodesList"

/-- The ids in a list of ids.  Entries that are no texts are passed over, and so
is a value that is no list. -/
def idsOf (value : Json) : List String := (value.items?.getD []).filterMap Json.text?

/-- The ids of the nodes below, each at the place where it is first listed. -/
def childIds (r : NodeRecord) : List String :=
  (((r.children.lookup idsKey).map idsOf).getD []).eraseDups

end NodeRecord

end Scenery
