import Scenery.Diagnostic

/-!
# The journal of a load

Loading a scene keeps a journal: problems and notes, in the order they come up.
The problems of a journal are what is reported of the scene (`Journal.problems`).
All its entries, one line each with its level, are the log (`Journal.lines`).

`Journal.addOnce` leaves a problem out if the journal holds an equal one.  A node
is visited as often as the scene shows it, and its problems are told once.
-/

namespace Scenery

/-- How much a line of the log matters. -/
inductive Level where
  | warn
  | info
  | debug
deriving DecidableEq, Repr

/-- A level as it is written. -/
def Level.name : Level → String
  | .warn => "WARN"
  | .info => "INFO"
  | .debug => "DEBUG"

/-- What the log tells besides the problems. -/
inductive Note where
  /-- The camera to start with is not declared. -/
  | initialCameraUndefined (id : String)
  /-- Image files are being read. -/
  | loadsStarted (count : Nat)
  /-- A material asks for a shading that is not known. -/
  | shadingUnknown (material shading : String)
  /-- The table of materials is complete. -/
  | materialsResolved (count : Nat)
  /-- A node came up again. -/
  | alreadyBuilt (node : String)
  /-- A child has no record. -/
  | noRecord (node : String)
  /-- A node declares a second geometry. -/
  | payloadReplaced (node key : String) (previous : Tag)
  /-- The nodes are complete. -/
  | graphBuilt (nodes records : Nat) (root : String)
  /-- A lamp is off. -/
  | lampOff (node : String) (tag : Tag)
  /-- A mesh was built. -/
  | meshBuilt (node : String) (tag : Tag) (triangles : Nat)
  /-- A tree of groups is complete. -/
  | instantiated (groups meshes lights : Nat) (root : String) (problems : Nat)
  /-- A load is complete. -/
  | loaded (name : String) (textures materials nodes groups meshes lights : Nat)
deriving DecidableEq, Repr

namespace Note

/-- How much a note matters. -/
def level : Note → Level
  | .initialCameraUndefined _ | .shadingUnknown .. => .warn
  | .graphBuilt .. | .instantiated .. | .loaded .. => .info
  | _ => .debug

/-- The words of a note. -/
def message : Note → String
  | .initialCameraUndefined id => s!"Initial camera '{id}' is not defined"
  | .loadsStarted count => s!"Started {count} background texture loads"
  | .shadingUnknown material shading =>
      s!"Material '{material}': unknown shading '{shading}', using smooth"
  | .materialsResolved count => s!"Resolved {count} materials"
  | .alreadyBuilt node => s!"Node '{node}' already built, skipping"
  | .noRecord node => s!"Node '{node}' has no record in the graph"
  | .payloadReplaced node key previous =>
      s!"Node '{node}': '{key}' replaces earlier {previous.name} payload"
  | .graphBuilt nodes records root =>
      s!"Built {nodes} nodes from {records} graph records (root '{root}')"
  | .lampOff node tag => s!"Node '{node}': {tag.name} disabled"
  | .meshBuilt node tag triangles =>
      s!"Node '{node}': built {tag.name} with {triangles} triangles"
  | .instantiated groups meshes lights root problems =>
      s!"Instantiated {groups} groups, {meshes} meshes, {lights} lights from '{root}' " ++
        s!"({problems} diagnostics)"
  | .loaded name textures materials nodes groups meshes lights =>
      s!"Loaded '{name}': {textures} textures, {materials} materials, {nodes} nodes, " ++
        s!"{groups} groups, {meshes} meshes, {lights} lights"

end Note

/-- An entry of a journal. -/
inductive Entry where
  /-- A problem. -/
  | problem (d : Diagnostic)
  /-- A note. -/
  | note (n : Note)
deriving DecidableEq, Repr

namespace Entry

/-- The problem of an entry, if it is one. -/
def problem? : Entry → Option Diagnostic
  | .problem d => some d
  | .note _ => none

/-- An entry as a line of the log. -/
def line : Entry → String
  | .problem d => Level.warn.name ++ " " ++ d.message
  | .note n => n.level.name ++ " " ++ n.message

end Entry

/-- What came up, in order. -/
structure Journal where
  /-- The entries, the first one first. -/
  entries : Array Entry
deriving DecidableEq, Repr

namespace Journal

/-- The journal without entries. -/
def empty : Journal := ⟨#[]⟩

/-- The problems of a journal. -/
def problems (j : Journal) : List Diagnostic := j.entries.toList.filterMap Entry.problem?

/-- The lines of the log. -/
def lines (j : Journal) : List String := j.entries.toList.map Entry.line

/-- Add a problem. -/
def add (j : Journal) (d : Diagnostic) : Journal := ⟨j.entries.push (.problem d)⟩

/-- Add a problem unless an equal one is there. -/
def addOnce (j : Journal) (d : Diagnostic) : Journal :=
  if j.problems.contains d then j else j.add d

/-- Add a note. -/
def note (j : Journal) (n : Note) : Journal := ⟨j.entries.push (.note n)⟩

/-- One journal after another. -/
def append (j k : Journal) : Journal := ⟨j.entries ++ k.entries⟩

/-! ## Views -/

@[simp] theorem problems_empty : empty.problems = [] := rfl

@[simp] theorem problems_add (j : Journal) (d : Diagnostic) :
    (j.add d).problems = j.problems ++ [d] := by
  simp [problems, add, Entry.problem?]

@[simp] theorem problems_note (j : Journal) (n : Note) : (j.note n).problems = j.problems := by
  simp [problems, note, Entry.problem?]

theorem problems_addOnce (j : Journal) (d : Diagnostic) :
    (j.addOnce d).problems = if d ∈ j.problems then j.problems else j.problems ++ [d] := by
  unfold addOnce
  by_cases h : d ∈ j.problems <;> simp [h]

theorem mem_problems_addOnce {j : Journal} {d e : Diagnostic} :
    e ∈ (j.addOnce d).problems ↔ e ∈ j.problems ∨ e = d := by
  rw [problems_addOnce]
  split
  next h =>
    constructor
    · exact Or.inl
    · rintro (he | rfl)
      · exact he
      · exact h
  next => simp

/-- No problem is told twice. -/
theorem nodup_problems_addOnce {j : Journal} (h : j.problems.Nodup) (d : Diagnostic) :
    (j.addOnce d).problems.Nodup := by
  rw [problems_addOnce]
  split
  next => exact h
  next hnew =>
    rw [List.nodup_append]
    refine ⟨h, by simp, ?_⟩
    intro a ha b hb he
    rw [he, List.mem_singleton.mp hb] at ha
    exact hnew ha

end Journal

end Scenery
