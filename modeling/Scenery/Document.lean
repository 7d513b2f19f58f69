import Scenery.Json.Reader

/-!
# Documents

A document is a JSON object with up to five sections.  Its `graph` holds the
records of the nodes and the id of the root.  `globals`, `cameras`, `textures`
and `materials` may be missing.  The whole may be wrapped in an object with the
one key `yasf`.

This module only takes the sections apart.  What their entries hold is looked at
later, entry by entry, so that one bad entry does not spoil a document.  So
whether a value is a document depends on nothing but the kinds of its sections
and the id of the root (`Document.ofValue`).

Of several things that are wrong the first is reported, in the order: the
document, the graph, its root id, globals, cameras, textures, materials.
-/

namespace Scenery

/-- The parts of a document that can be wrong. -/
inductive Part where
  | document
  | globals
  | cameras
  | textures
  | materials
  | graph
deriving DecidableEq, Repr

/-- A part as it is named in messages. -/
def Part.name : Part → String
  | .document => "document"
  | .globals => "globals"
  | .cameras => "cameras"
  | .textures => "textures"
  | .materials => "materials"
  | .graph => "graph"

/-- Why a file has no text. -/
inductive FileError where
  /-- There is no such file. -/
  | notFound
  /-- The bytes of the file are no text. -/
  | notText
  /-- Any other reason, in the words of the system. -/
  | other (reason : String)
deriving DecidableEq, Repr

/-- The words for a file without a text. -/
def FileError.message : FileError → String
  | .notFound => "No such file or directory (os error 2)"
  | .notText => "stream did not contain valid UTF-8"
  | .other reason => reason

/-- Why a document cannot be loaded. -/
inductive LoadError where
  /-- Its file cannot be read. -/
  | file (cause : FileError)
  /-- Its text is not JSON. -/
  | json (cause : Json.ReadError)
  /-- A part is not an object. -/
  | notAnObject (part : Part)
  /-- A part is missing. -/
  | missingPart (part : Part)
  /-- The graph does not name its root. -/
  | missingRootId
  /-- The root has no record. -/
  | rootNotFound (id : String)
deriving DecidableEq, Repr

/-- The words for a document that cannot be loaded. -/
def LoadError.message : LoadError → String
  | .file cause => s!"IO error: {cause.message}"
  | .json cause => s!"JSON error: {cause.message}"
  | .notAnObject part => s!"Section '{part.name}' must be a JSON object"
  | .missingPart part => s!"Document has no '{part.name}' section"
  | .missingRootId => "Graph section has no 'rootid'"
  | .rootNotFound id => s!"Root node '{id}' is not defined in the graph"

/-- The words for what is behind an error, if it is not the error itself. -/
def LoadError.cause? : LoadError → Option String
  | .file cause => some cause.message
  | .json cause => some cause.message
  | _ => none

/-- The records of the nodes. -/
structure Records where
  /-- The id of the root. -/
  rootId : String
  /-- The record of each id, as it is written. -/
  entries : Json.Members

namespace Records

/-- The key that names the root among the records. -/
def rootKey : String := "rootid"

/-- The record of an id. -/
def record? (g : Records) (id : String) : Option Json := g.entries.lookup id

/-- How many records there are. -/
def size (g : Records) : Nat := g.entries.length

/-- The records of a graph section. -/
def ofSection (members : Json.Members) : Except LoadError Records :=
  match members.lookup rootKey with
  | some (.string id) => .ok ⟨id, Json.drop rootKey members⟩
  | _ => .error .missingRootId

end Records

/-- A document, taken apart. -/
structure Document where
  /-- The settings of the whole scene. -/
  globals : Json.Members
  /-- The cameras. -/
  cameras : Json.Members
  /-- The textures. -/
  textures : Json.Members
  /-- The materials. -/
  materials : Json.Members
  /-- The records of the nodes. -/
  graph : Records

namespace Document

/-- The members of a section that may be missing. -/
def sectionOf (root : Json.Members) (part : Part) : Except LoadError Json.Members :=
  match root.lookup part.name with
  | some (.object members) => .ok members
  | some .null => .ok []
  | none => .ok []
  | some _ => .error (.notAnObject part)

/-- The sections of a document, without a wrapper. -/
def unwrapped (root : Json.Members) : Json.Members :=
  match root with
  | [("yasf", .object inner)] => inner
  | root => root

/-- Take the sections of a document apart. -/
def ofSections (root : Json.Members) : Except LoadError Document := do
  let graph ←
    match root.lookup Part.graph.name with
    | some (.object members) => Records.ofSection members
    | some _ => .error (.notAnObject .graph)
    | none => .error (.missingPart .graph)
  let globals ← sectionOf root .globals
  let cameras ← sectionOf root .cameras
  let textures ← sectionOf root .textures
  let materials ← sectionOf root .materials
  return { globals, cameras, textures, materials, graph }

/-- Take a JSON value apart as a document. -/
def ofValue : Json → Except LoadError Document
  | .object root => ofSections (unwrapped root)
  | _ => .error (.notAnObject .document)

/-- Read a text as a document. -/
def parse (text : String) : Except LoadError Document :=
  match Json.parse text with
  | .ok value => ofValue value
  | .error cause => .error (.json cause)

end Document

end Scenery
