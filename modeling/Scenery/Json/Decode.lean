import Scenery.Json.Basic
import Scenery.Json.Writer
import Scenery.Text.Quoted

/-!
# Reading records from JSON

Documents are converted piece by piece from JSON values to the types of this
library.  A conversion fails with a `DecodeError`, which says what was found and
what was wanted.

* A count is an integer of 32 bits, and nothing else.  A real number may be
  written as an integer.
* A record is written as an object or as an array.  `Fields` describes its
  fields, in the order of their declaration, each with its name, its conversion
  and perhaps a default.
* In an object the members are converted in the order they are written, and the
  first that fails decides.  Members that are no fields are passed over.  After
  that the first field without a member and without a default is missed.
* In an array the items are the fields in the order of their declaration.  Items
  may be left out at the end if their fields have defaults, and no items may be
  left over.

`Fields` has the structure of an applicative functor: a record is a constructor
applied to fields, one after another.
-/

namespace Scenery.Json

/-- Why a value does not convert. -/
inductive DecodeError where
  /-- The value is of another kind. -/
  | wrongKind (found : Json) (wanted : String)
  /-- The value is of the right kind and out of range. -/
  | outOfRange (found : Json) (wanted : String)
  /-- A field has no member. -/
  | missing (field : String)
  /-- An array has the wrong number of items. -/
  | wrongLength (found : Nat) (wanted : String)
  /-- A tag is none of those that are known. -/
  | unknownTag (found : String) (known : List String)

/-- A value as it is shown in a message. -/
def describe : Json → String
  | .null => "null"
  | .bool value => s!"boolean `{value}`"
  | .number (.integer value) => s!"integer `{value}`"
  | .number (.real value) => "floating point `" ++ (Number.real value).text ++ "`"
  | .string value => "string " ++ Text.quoted value
  | .array _ => "sequence"
  | .object _ => "map"

/-- The words for a value that does not convert. -/
def DecodeError.message : DecodeError → String
  | .wrongKind found wanted => s!"invalid type: {found.describe}, expected {wanted}"
  | .outOfRange found wanted => s!"invalid value: {found.describe}, expected {wanted}"
  | .missing field => s!"missing field `{field}`"
  | .wrongLength found wanted => s!"invalid length {found}, expected {wanted}"
  | .unknownTag found known =>
      s!"unknown variant `{found}`, expected " ++
        " or ".intercalate (known.map fun tag => "`" ++ tag ++ "`")

/-- A conversion. -/
abbrev Decoder (β : Type) : Type := Json → Except DecodeError β

namespace Decode

/-! ## Single values -/

/-- A machine number. -/
def number : Decoder Float32
  | .number (.integer value) =>
      let size := (UInt64.ofNat value.natAbs).toFloat32
      .ok (if value < 0 then -size else size)
  | .number (.real value) => .ok value.toFloat32
  | other => .error (.wrongKind other "f32")

/-- A count of 32 bits. -/
def count : Decoder UInt32
  | .number (.integer value) =>
      if 0 ≤ value ∧ value < 0x100000000 then .ok (UInt32.ofNat value.toNat)
      else .error (.outOfRange (.number (.integer value)) "u32")
  | other => .error (.wrongKind other "u32")

/-- A truth value. -/
def flag : Decoder Bool
  | .bool value => .ok value
  | other => .error (.wrongKind other "a boolean")

/-- A text. -/
def text : Decoder String
  | .string value => .ok value
  | other => .error (.wrongKind other "a string")

/-- The members of an object, not converted. -/
def members : Decoder Members
  | .object ms => .ok ms
  | other => .error (.wrongKind other "a map")

/-- The items of an array, each converted. -/
def list {β : Type} (item : Decoder β) : Decoder (List β)
  | .array xs => xs.mapM item
  | other => .error (.wrongKind other "a sequence")

/-- A value that may be null. -/
def nullable {β : Type} (value : Decoder β) : Decoder (Option β)
  | .null => .ok none
  | other => (value other).map some

/-! ## Fields -/

/-- Where the fields of a record are found. -/
structure Source where
  /-- The value written for a field. -/
  find : String → Option Json
  /-- What is wrong when a field has none. -/
  absent : String → DecodeError
  /-- Whether fields are found by their place. -/
  positional : Bool

/-- The fields of a record and what is made of them. -/
structure Fields (β : Type) where
  /-- The conversion of each field, in the order of declaration. -/
  checks : List (String × (Json → Except DecodeError Unit))
  /-- What the fields make. -/
  build : Source → Except DecodeError β

instance : Functor Fields where
  map f a := ⟨a.checks, fun s => (a.build s).map f⟩

instance : Seq Fields where
  seq f a := ⟨f.checks ++ (a ()).checks, fun s => do
    let g ← f.build s
    let x ← (a ()).build s
    return g x⟩

/-- A field of any kind: `missing` is what an absent one gives. -/
def field {β : Type} (name : String) (value : Decoder β)
    (missing : Source → Except DecodeError β) : Fields β where
  checks := [(name, fun j => (value j).map fun _ => ())]
  build s :=
    match s.find name with
    | some j => value j
    | none => missing s

/-- A field that has to be there. -/
def required {β : Type} (name : String) (value : Decoder β) : Fields β :=
  field name value fun s => .error (s.absent name)

/-- A field with a default. -/
def withDefault {β : Type} (name : String) (value : Decoder β) (default : β) : Fields β :=
  field name value fun _ => .ok default

/-- A field that an object may leave out and an array may not. -/
def omittable {β : Type} (name : String) (value : Decoder β) : Fields (Option β) :=
  field name (nullable value) fun s => if s.positional then .error (s.absent name) else .ok none

namespace Fields

variable {β : Type}

/-- The names of the fields. -/
def names (fields : Fields β) : List String := fields.checks.map (·.1)

/-- Convert the member of an object if it is a field. -/
def check (fields : Fields β) (member : String × Json) : Except DecodeError Unit :=
  match fields.checks.lookup member.1 with
  | some convert => convert member.2
  | none => .ok ()

/-- A record from the members of an object. -/
def ofMembers (fields : Fields β) (ms : Members) : Except DecodeError β := do
  ms.forM fields.check
  fields.build ⟨fun name => ms.lookup name, .missing, false⟩

/-- A number of items, in words. -/
def elements (n : Nat) : String := if n = 1 then "1 element" else s!"{n} elements"

/-- A record from the items of an array.  `what` names the record, and
`leftOver` says what is wrong with too many items. -/
def ofItems (fields : Fields β) (what : String) (leftOver : String) (xs : List Json) :
    Except DecodeError β := do
  let place (name : String) : Nat := fields.names.idxOf name
  let wanted := s!"{what} with {elements fields.names.length}"
  let record ← fields.build
    ⟨fun name => xs[place name]?, fun name => .wrongLength (place name) wanted, true⟩
  if fields.names.length < xs.length then throw (.wrongLength xs.length leftOver)
  return record

end Fields

/-- How an array with too many items is reported. -/
inductive LeftOver where
  /-- By asking for fewer. -/
  | fewer
  /-- By the number there should be. -/
  | exactly
deriving DecidableEq, Repr

/-- The words for what is wanted of an array with too many items. -/
def LeftOver.wanted (rule : LeftOver) (n : Nat) : String :=
  match rule with
  | .fewer => "fewer elements in array"
  | .exactly => Fields.elements n ++ " in sequence"

/-- A record, which `name` names in messages. -/
def record {β : Type} (rule : LeftOver) (name : String) (fields : Fields β) : Decoder β
  | .object ms => fields.ofMembers ms
  | .array xs => fields.ofItems ("struct " ++ name) (rule.wanted fields.names.length) xs
  | other => .error (.wrongKind other ("struct " ++ name))

end Decode

end Scenery.Json
