import Scenery.Camera
import Scenery.Globals
import Scenery.Node.Graph
import Scenery.Scene.Instantiate

/-!
# Loading scenes

Loading a scene takes a document apart, reads its sections one after another and
shows the nodes of its graph once.  It fails only if the text is no document or
the root has no record.  Whatever else is wrong is told in the journal, and the
rest of the scene is loaded.  It may come to nothing at all, neither a scene nor an
error: that is where the program stops while it builds a figure.

The order of the sections is globals, cameras, textures, materials, graph: each
may ask for what is read before it, and the journal follows it.

The images of textures are not read here.  `LoadedScene.catalog` tells which ones
are pending, and the journal says how many are asked for.
-/

namespace Scenery

/-- What is up to whoever loads a scene. -/
structure LoadOptions where
  /-- The directory that files of textures are below. -/
  baseDirectory : Option String
  /-- Whether images are asked for. -/
  loadTextures : Bool
  /-- The material that comes down to the root. -/
  defaultMaterial : MaterialHandle Float32

/-- Ask for images, take files as they are named, and start from the neutral
material. -/
def LoadOptions.usual : LoadOptions := ⟨none, true, .free .neutral⟩

/-- A scene with all it was made from. -/
structure LoadedScene where
  /-- The name. -/
  name : String
  /-- The settings of the whole scene. -/
  globals : Globals Float32
  /-- The cameras. -/
  cameras : CameraSet Float32
  /-- The nodes, materials and textures. -/
  catalog : Catalog Float32
  /-- The id of the root. -/
  rootId : String
  /-- The material that comes down to the root. -/
  defaultMaterial : MaterialHandle Float32
  /-- What is shown. -/
  scene : Scene Float32
  /-- What came up before anything was shown. -/
  journal : Journal

namespace LoadedScene

/-- Show the root again. -/
def instantiate? (s : LoadedScene) : Option (Scene Float32) :=
  s.catalog.instantiate? s.rootId s.defaultMaterial

/-- The same with what is shown put together again. -/
def rebuild? (s : LoadedScene) : Option LoadedScene :=
  s.instantiate?.map fun scene => { s with scene }

/-- The problems of the document, and then those of what is shown. -/
def problems (s : LoadedScene) : List Diagnostic := s.journal.problems ++ s.scene.problems

/-- The note about a complete load. -/
def summary (s : LoadedScene) : Note :=
  .loaded s.name s.catalog.textures.size s.catalog.materials.size s.catalog.nodes.size
    s.scene.groupCount s.scene.meshCount s.scene.lightCount

/-- The log of a load. -/
def log (s : LoadedScene) : List String :=
  ((s.journal.append s.scene.journal).note s.summary).lines

/-! ## Loading -/

/-- The table of textures of a section, and how many images are asked for. -/
def readTextures (entries : Json.Members) (options : LoadOptions) (journal : Journal) :
    TextureTable × Journal :=
  let read := TextureTable.ofSection entries options.baseDirectory journal
  if options.loadTextures then (read.1, read.2.note (.loadsStarted read.1.pending.length))
  else read

/-- What the sections of a document come to, before anything is shown. -/
def ofSections (d : Document) (name : String) (options : LoadOptions) : LoadedScene :=
  let (globals, journal) := Globals.ofSection d.globals .empty
  let (cameras, journal) := CameraSet.ofSection d.cameras journal
  let (textures, journal) := readTextures d.textures options journal
  let (materials, journal) := MaterialTable.ofSection d.materials textures journal
  let (nodes, journal) := NodeDictionary.ofRecords d.graph d.graph.rootId journal
  { name, globals, cameras, journal
    catalog := ⟨nodes, materials, textures⟩
    rootId := d.graph.rootId
    defaultMaterial := options.defaultMaterial
    scene := .empty }

/-- The scene of a document. -/
def ofDocument (d : Document) (name : String) (options : LoadOptions) :
    Option (Except LoadError LoadedScene) :=
  if (d.graph.record? d.graph.rootId).isSome then
    (ofSections d name options).rebuild?.map .ok
  else some (.error (.rootNotFound d.graph.rootId))

/-- The scene of a document, or the error that there is in place of one. -/
def ofRead (read : Except LoadError Document) (name : String) (options : LoadOptions) :
    Option (Except LoadError LoadedScene) :=
  match read with
  | .error e => some (.error e)
  | .ok document => ofDocument document name options

/-- The scene of a text. -/
def ofText (text : String) (name : String) (options : LoadOptions) :
    Option (Except LoadError LoadedScene) :=
  ofRead (Document.parse text) name options

/-- The name of a scene whose file has none. -/
def unnamed : String := "unnamed"

/-- The scene of a file, which is named after the file.  Its textures are in the
directory of the file. -/
def ofFile (path : String) (content : Except FileError ByteArray) :
    Option (Except LoadError LoadedScene) :=
  match content with
  | .error e => some (.error (.file e))
  | .ok bytes =>
      match String.fromUTF8? bytes with
      | none => some (.error (.file .notText))
      | some text =>
          ofText text ((Text.Path.stem path).getD unnamed)
            { LoadOptions.usual with baseDirectory := Text.Path.directory path }

end LoadedScene

end Scenery
