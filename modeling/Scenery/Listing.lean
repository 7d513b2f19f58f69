import Scenery.Decimal.Fixed
import Scenery.Load

/-!
# Listing a scene

The program loads one file and lists what it shows: some counts, the camera to
start with, the groups, the box around all meshes, and the problems.  A group is
indented by its depth, with its mesh or light below it.

Numbers have two places, but for the parameters of a light, which are written
with the fewest digits that read back.
-/

namespace Scenery.Listing

/-! ## Numbers -/

/-- A number with two places. -/
def places (x : Float32) : String := (Decimal.Reading.ofFloat32 x).fixed 2

/-- Numbers are positional from `0.0001` to below `10 ^ 16`. -/
def parameterStyle : Decimal.Style where
  lowest := -4
  highest := 15
  plus := false
  tie := .up

/-- A number with the fewest digits that read back. -/
def parameter (x : Float32) : String := (Decimal.Reading.ofFloat32 x).text parameterStyle

/-- Three coordinates with two places. -/
def point (v : Vec3 Float32) : String :=
  "(" ++ places v.x ++ ", " ++ places v.y ++ ", " ++ places v.z ++ ")"

/-- A name with parameters. -/
def call (name : String) (parameters : List (String × String)) : String :=
  name ++ " \x7b " ++
    ", ".intercalate (parameters.map fun (field, value) => field ++ ": " ++ value) ++ " \x7d"

/-- A vector as a parameter. -/
def vector (v : Vec3 Float32) : String :=
  "Vec3(" ++ parameter v.x ++ ", " ++ parameter v.y ++ ", " ++ parameter v.z ++ ")"

/-- What a light lights. -/
def lightKind : LightKind Float32 → String
  | .point distance decay =>
      call "Point" [("distance", parameter distance), ("decay", parameter decay)]
  | .spot distance decay angle penumbra target =>
      call "Spot" [("distance", parameter distance), ("decay", parameter decay),
        ("angle", parameter angle), ("penumbra", parameter penumbra), ("target", vector target)]
  | .directional left right bottom top =>
      call "Directional" [("left", parameter left), ("right", parameter right),
        ("bottom", parameter bottom), ("top", parameter top)]

/-! ## Groups -/

/-- The blanks before a line about a group at a depth. -/
def indent (depth : Nat) : String := String.ofList (List.replicate (2 * (depth + 1)) ' ')

/-- The name of a material. -/
def materialName (m : MaterialHandle Float32) : String :=
  if m.material.name.isEmpty then "<default>" else m.material.name

/-- How a mesh looks. -/
def appearance : MeshMaterial Float32 → String
  | .shared _ => "material"
  | .vertexColors => "vertex colors"
  | .video _ => "video"

/-- The line of something in a group. -/
def objectLine (depth : Nat) : SceneObject Float32 → String
  | .mesh i =>
      indent (depth + 1) ++ s!"mesh: {i.mesh.vertexCount} vertices" ++
        s!", {i.mesh.triangleCount} triangles ({appearance i.material})"
  | .light l =>
      indent (depth + 1) ++ "light: " ++ lightKind l.kind ++ " intensity " ++ places l.intensity ++
        " at " ++ point l.position

/-- The line of a group. -/
def headLine (depth : Nat) (g : Group Float32) : String :=
  indent depth ++ g.id ++ s!" [material: {materialName g.material}" ++
    s!", cast: {g.castShadows}, receive: {g.receiveShadows}]"

/-- The lines of a group without those below it. -/
def groupLines (depth : Nat) (g : Group Float32) : List String :=
  headLine depth g :: g.objects.map (objectLine depth)

mutual

/-- The lines of a tree. -/
def treeLines (depth : Nat) : Tree (Group Float32) → List String
  | .node g ts => groupLines depth g ++ forestLines (depth + 1) ts

/-- The lines of several trees. -/
def forestLines (depth : Nat) : List (Tree (Group Float32)) → List String
  | [] => []
  | t :: ts => treeLines depth t ++ forestLines depth ts

end

/-! ## Scenes -/

/-- The counts of a scene. -/
def countLines (s : LoadedScene) : List String :=
  [ "", s!"=== Scene: {s.name} ===",
    s!"Textures: {s.catalog.textures.size}",
    s!"Materials: {s.catalog.materials.size}",
    s!"Nodes: {s.catalog.nodes.size}",
    s!"Groups: {s.scene.groupCount}",
    s!"Meshes: {s.scene.meshCount}",
    s!"Lights: {s.scene.lightCount}" ]

/-- The camera to start with. -/
def cameraLines (s : LoadedScene) : List String :=
  match s.cameras.initialCamera with
  | none => []
  | some camera => ["Camera: " ++ point camera.location ++ " -> " ++ point camera.target]

/-- The box around all meshes, unless there are none. -/
def boundsLines (b : Bounds Float32) : List String :=
  if b.isEmpty then []
  else ["", "--- World Bounds ---", "  Min: " ++ point b.low, "  Max: " ++ point b.high]

/-- The problems, unless there are none. -/
def problemLines (problems : List Diagnostic) : List String :=
  if problems.isEmpty then []
  else
    ["", s!"--- Diagnostics ({problems.length}) ---"] ++
      problems.map fun d => "  " ++ d.message

/-- The lines of a scene. -/
def sceneLines (s : LoadedScene) : List String :=
  countLines s ++ cameraLines s ++ ["", "--- Tree ---"] ++ forestLines 0 s.scene.trees ++
    boundsLines s.scene.worldBounds ++ problemLines s.problems

/-! ## Failures -/

/-- A text below a heading, with `first` before its first line and `later` before
each other one. -/
def hanging (first later : String) (text : String) : String :=
  first ++ ("\n" ++ later).intercalate (text.splitOn "\n")

/-- The causes of a failure, numbered if there are several. -/
def causes : List String → List String
  | [cause] => [hanging "    " "    " cause]
  | several => several.mapIdx fun i cause => hanging s!"    {i}: " "       " cause

/-- The lines of a failure. -/
def failureLines (path : String) (e : LoadError) : List String :=
  [s!"Error: failed to load {path}", "", "Caused by:"] ++ causes (e.message :: e.cause?.toList)

/-! ## The program -/

/-- What a run of the program writes. -/
structure Output where
  /-- The lines of the listing. -/
  out : List String
  /-- The lines about a failure. -/
  err : List String
deriving DecidableEq, Repr

/-- Lines as one text. -/
def text (lines : List String) : String := String.join (lines.map fun line => line ++ "\n")

/-- The code that a run ends with. -/
def Output.code (o : Output) : UInt32 := if o.err.isEmpty then 0 else 1

/-- How the program is used. -/
def usage : List String :=
  [ "Usage: inspect_scene <path-to-yasf-json>", "", "Example:",
    "  cargo run --example inspect_scene -- scenes/demo.json" ]

/-- What a run on a file writes before it loads the file. -/
def opening (path : String) : String := s!"Loading YASF file: {path}"

/-- The run on a file, unless the program stops in the middle. -/
def onFile? (path : String) (content : Except FileError ByteArray) : Option Output := do
  match ← LoadedScene.ofFile path content with
  | .ok s => some ⟨opening path :: sceneLines s, []⟩
  | .error e => some ⟨[opening path], failureLines path e⟩

/-- The code of a run that has stopped in the middle. -/
def stopCode : UInt32 := 101

end Scenery.Listing
