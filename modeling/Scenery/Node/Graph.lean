import Scenery.Geometry.Declaration
import Scenery.Journal
import Scenery.Node.Dictionary
import Scenery.Node.Record

/-!
# Building the nodes of a graph

The nodes of a scene are those that can be reached from its root.  They are built
breadth first.  The queue holds *references*, an id with the shadow flags that
come down to it.  Taking a reference from the queue does one of four things.

* The id is built already: nothing.  So of all references to a node the first
  one decides what comes down to it.
* The id has no record: nothing.  It is missed later, by whoever wants to show it.
* The record does not convert: the problem is told, once for each id.
* Otherwise the node is built, and references to its children go to the end of
  the queue, with the node's own flags.

The walk ends, whatever the graph: either fewer records remain unbuilt, or they
stay as they are and the queue gets shorter (`NodeDictionary.ofRecords`).

A record is told about in the order it is written, its steps first.  Of several
geometries the last one that converts is what the node carries.
-/

namespace Scenery

/-- A reference to a node, with what comes down to it. -/
structure Reference where
  /-- The id of the node. -/
  id : String
  /-- Whether the node casts shadows unless it says otherwise. -/
  castShadows : Bool
  /-- Whether shadows fall on it unless it says otherwise. -/
  receiveShadows : Bool
deriving DecidableEq, Repr

/-- The reference to a root. -/
def Reference.root (id : String) : Reference := ⟨id, false, false⟩

/-- The references to the children of a node. -/
def Node.references {α : Type} (node : Node α) : List Reference :=
  node.children.map fun id => ⟨id, node.castShadows, node.receiveShadows⟩

namespace NodeRecord

/-! ## One record -/

/-- An entry of the children of a node, as it is named in messages. -/
def entryName (id key : String) : String := s!"{id}/{key}"

/-- The problems of a list of ids. -/
def idProblems (id : String) (value : Json) : List Diagnostic :=
  let malformed (message : String) : Diagnostic := .malformed .graph (entryName id idsKey) message
  match value.items? with
  | none => [malformed "expected a list of node ids"]
  | some items =>
      (items.filter fun item => item.text?.isNone).map fun item =>
        malformed s!"child id {item.compact} is not a string"

/-- The problem of a declaration that is no geometry. -/
def declarationProblem (id key : String) : DeclarationError → Diagnostic
  | .unknownTag tag => .unknownGeometry id tag
  | error => .malformed .graph (entryName id key) error.message

/-- What the children of a record have come to. -/
structure Payload where
  /-- The geometry so far. -/
  geometry : Option (Geometry Float32)
  /-- The journal so far. -/
  journal : Journal

/-- Go on with the next entry of the children. -/
def Payload.step (id : String) (p : Payload) (entry : String × Json) : Payload :=
  if entry.1 = idsKey then { p with journal := (idProblems id entry.2).foldl .add p.journal }
  else
    match Geometry.ofDeclaration entry.2 with
    | .error e => { p with journal := p.journal.add (declarationProblem id entry.1 e) }
    | .ok g =>
        match p.geometry with
        | none => { p with geometry := some g }
        | some previous =>
            { geometry := some g
              journal := p.journal.note (.payloadReplaced id entry.1 previous.tag) }

/-- What the children of a record come to. -/
def payload (r : NodeRecord) (id : String) (journal : Journal) : Payload :=
  r.children.foldl (Payload.step id) ⟨none, journal⟩

/-- The node of a record that is referred to, and the journal with what there is
to tell about it. -/
def build (r : NodeRecord) (ref : Reference) (journal : Journal) : Node Float32 × Journal :=
  let told := (r.unknownTags.map (.unknownTransform ref.id)).foldl .add journal
  let payload := r.payload ref.id told
  ({ id := ref.id
     type := r.type
     steps := r.steps
     materialRef := r.materialId.map Text.lower
     geometry := payload.geometry
     castShadows := r.castShadows.getD ref.castShadows
     receiveShadows := r.receiveShadows.getD ref.receiveShadows
     children := r.childIds }, payload.journal)

theorem build_id (r : NodeRecord) (ref : Reference) (journal : Journal) :
    (r.build ref journal).1.id = ref.id := rfl

end NodeRecord

/-! ## The walk -/

/-- How many records are not built yet. -/
def Records.unbuilt (g : Records) (nodes : NodeDictionary Float32) : Nat :=
  g.entries.countP fun entry => !nodes.contains entry.1

/-- Building a node that has a record leaves fewer records unbuilt. -/
theorem Records.unbuilt_insert_lt {g : Records} {nodes : NodeDictionary Float32}
    {node : Node Float32} {value : Json} (hr : g.record? node.id = some value)
    (hn : nodes.contains node.id = false) :
    g.unbuilt (nodes.insert node).1 < g.unbuilt nodes := by
  have hmem : (node.id, value) ∈ g.entries := by
    obtain ⟨l, r, h, _⟩ := List.lookup_eq_some_iff.mp hr
    simp [h]
  apply NodeDictionary.countP_lt_countP (x := (node.id, value))
  · intro entry h
    simp only [NodeDictionary.contains_insert, Bool.not_or, Bool.and_eq_true] at h
    exact h.1
  · simp [hn]
  · simp [NodeDictionary.contains_insert]
  · exact hmem

namespace NodeDictionary

/-- The dictionary when all references of the queue are worked through. -/
def walk (g : Records) (queue : List Reference) (nodes : NodeDictionary Float32)
    (journal : Journal) : NodeDictionary Float32 × Journal :=
  match queue with
  | [] => (nodes, journal)
  | ref :: rest =>
      if _ : nodes.contains ref.id then walk g rest nodes (journal.note (.alreadyBuilt ref.id))
      else
        match _ : g.record? ref.id with
        | none => walk g rest nodes (journal.note (.noRecord ref.id))
        | some value =>
            match NodeRecord.decode value with
            | .error e =>
                walk g rest nodes (journal.addOnce (.malformed .graph ref.id e.message))
            | .ok record =>
                let built := record.build ref journal
                walk g (rest ++ built.1.references) (nodes.insert built.1).1 built.2
termination_by (g.unbuilt nodes, queue.length)
decreasing_by
  · exact Prod.Lex.right _ (by simp)
  · exact Prod.Lex.right _ (by simp)
  · exact Prod.Lex.right _ (by simp)
  · exact Prod.Lex.left _ _
      (Records.unbuilt_insert_lt (by rw [NodeRecord.build_id]; assumption)
        (by rw [NodeRecord.build_id]; exact Bool.eq_false_iff.mpr ‹_›))

/-- The nodes that can be reached from a root, in breadth-first order. -/
def ofRecords (g : Records) (root : String) (journal : Journal) :
    NodeDictionary Float32 × Journal :=
  let built := walk g [.root root] empty journal
  (built.1, built.2.note (.graphBuilt built.1.size g.size root))

end NodeDictionary

end Scenery
