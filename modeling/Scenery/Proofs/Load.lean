import Mathlib.Tactic
import Scenery.Load
import Scenery.Proofs.Document
import Scenery.Proofs.Node.Rendering
import Scenery.Proofs.Scene.Problems
import Scenery.Proofs.Shape.Net

/-!
# Two walks over one graph

Loading a scene goes over the graph twice: breadth first to build its nodes, and then
down every simple path to show them.  The walks treat a child that comes up again, one
without a node and one on the way already each in a way of their own.  They agree
nevertheless on which nodes there are (`LoadedScene.Agrees`).

*From the first to the second.*  Every node but the root stands behind a node that lists
it, so it is come to within the dictionary, and so there is a simple path to it.

*What only the second tells.*  The first passes over a child without a record.  It is
dangling then, and is told where its parent is shown, once.

If the record of the root does not convert, there are no nodes.  The first walk tells why
and the second that the root is missing.

*Where a load stops.*  The second walk builds the figure of each node.  So the program stops in
the middle if there is a node whose figure stops it, that is, if the last geometry of a record
that is reached is a patch of the greatest degrees (`Records.Stops`), and only then
(`LoadedScene.ofDocument_eq_none_iff`).
-/

namespace Scenery

/-! ## The nodes of a graph -/

/-- A record that is there and does not convert has an error. -/
theorem Records.exists_error {g : Records} {id : String}
    (hr : (g.record? id).isSome = true) (hnone : g.decoded? id = none) :
    ∃ value e, g.record? id = some value ∧ NodeRecord.decode value = .error e := by
  obtain ⟨value, hvalue⟩ := Option.isSome_iff_exists.mp hr
  cases hdecode : NodeRecord.decode value with
  | error e => exact ⟨value, e, hvalue, hdecode⟩
  | ok r =>
      rw [decoded?_of_ok hvalue hdecode] at hnone
      cases hnone

namespace NodeDictionary

variable {g : Records} {root : String} {d : NodeDictionary Float32}

/-- Every node is come to, by induction on its place: it is the root, or stands behind a
node that lists it. -/
theorem Explored.reaches_node (h : Explored g root d) {i : Nat} {node : Node Float32}
    (hi : d.toList[i]? = some node) : d.Reaches root node.id := by
  induction i using Nat.strong_induction_on generalizing node with
  | _ i ih =>
      have hheld : d.contains node.id = true :=
        h.consistent.contains_iff.mpr ⟨node, List.mem_of_getElem? hi, rfl⟩
      by_cases hroot : node.id = root
      · rw [hroot] at hheld ⊢
        exact .root hheld
      · obtain ⟨j, hj, parent, hparent, hchild⟩ := h.earlier i node hi hroot
        have found : d.get? parent.id = some parent :=
          h.consistent.get?_eq_some_iff.mpr ⟨List.mem_of_getElem? hparent, rfl⟩
        exact .child (ih j hj hparent) ⟨parent, found, hchild⟩ hheld

theorem Explored.reaches_iff (h : Explored g root d) {id : String} :
    d.Reaches root id ↔ ∃ node ∈ d.toList, node.id = id := by
  constructor
  · intro hreach
    exact h.consistent.contains_iff.mp hreach.held
  · rintro ⟨node, hnode, rfl⟩
    obtain ⟨i, hi⟩ := List.mem_iff_getElem?.mp hnode
    exact h.reaches_node hi

/-- The nodes carry the geometries that come last in the records that are reached. -/
theorem Explored.exists_geometry_iff (h : Explored g root d) {x : Geometry Float32} :
    (∃ node ∈ d.toList, node.geometry = some x) ↔ ∃ id r, g.Reaches root id ∧
      g.decoded? id = some r ∧ NodeRecord.LastDeclared r.children x := by
  constructor
  · rintro ⟨node, hnode, hx⟩
    obtain ⟨ref, r, -, hr, rfl⟩ := h.built node hnode
    obtain ⟨hreaches, -⟩ := (h.exists_iff _).mp ⟨_, hnode, rfl⟩
    exact ⟨_, r, hreaches, hr, ((r.renders_node ref).geometry x).mp hx⟩
  · rintro ⟨id, r, hreaches, hr, hx⟩
    obtain ⟨node, hnode, rfl⟩ := (h.exists_iff id).mpr ⟨hreaches, by rw [hr]; rfl⟩
    obtain ⟨ref, s, -, hs, rfl⟩ := h.built node hnode
    obtain rfl : r = s := Option.some.inj (hr.symm.trans hs)
    exact ⟨_, hnode, ((r.renders_node ref).geometry x).mpr hx⟩

/-- Without a record of the root that converts there are no nodes, since none could stand
first. -/
theorem Explored.toList_eq_nil (h : Explored g root d) (hroot : g.decoded? root = none) :
    d.toList = [] := by
  cases hlist : d.toList with
  | nil => rfl
  | cons first rest =>
      have hfirst : d.toList[0]? = some first := by rw [hlist]; rfl
      by_cases hid : first.id = root
      · obtain ⟨r, hr, -⟩ := h.children (List.mem_of_getElem? hfirst)
        rw [hid, hroot] at hr
        cases hr
      · obtain ⟨j, hj, -⟩ := h.earlier 0 first hfirst hid
        exact absurd hj (Nat.not_lt_zero j)

/-- A record of the root that does not convert is told. -/
theorem mem_problems_ofRecords {value : Json} {e : Json.DecodeError}
    (hr : g.record? root = some value) (he : NodeRecord.decode value = .error e)
    (journal : Journal) :
    .malformed .graph root e.message ∈ (ofRecords g root journal).2.problems := by
  have hempty : (empty : NodeDictionary Float32).contains (Reference.root root).id = false := by
    rw [consistent_empty.contains_eq_false_iff, toList_empty]
    simp
  unfold ofRecords
  simp only [walk_malformed hempty hr he, walk, Journal.problems_note]
  exact Journal.mem_problems_addOnce.mpr (Or.inr rfl)

end NodeDictionary

/-- Showing the nodes of a graph stops the program: the last geometry of a record that is reached
is a patch that does. -/
def Records.Stops (g : Records) (root : String) : Prop :=
  ∃ id r patch, g.Reaches root id ∧ g.decoded? id = some r ∧
    NodeRecord.LastDeclared r.children (.figure (.nurbs patch)) ∧ Shape.Stops patch

/-- Records that declare no geometries do not stop the program. -/
theorem Records.not_stops {g : Records} {root : String}
    (h : ∀ entry ∈ g.entries, ∀ r, NodeRecord.decode entry.2 = .ok r →
      ∀ child ∈ r.children, child.1 = NodeRecord.idsKey) :
    ¬ g.Stops root := by
  rintro ⟨id, r, patch, -, hr, ⟨before, child, after, hchildren, hdeclares, -⟩, -⟩
  obtain ⟨value, hvalue, hdecode⟩ := Option.bind_eq_some_iff.mp hr
  obtain ⟨ahead, behind, hentries, -⟩ := List.lookup_eq_some_iff.mp hvalue
  cases hrecord : NodeRecord.decode value with
  | error e =>
      rw [hrecord] at hdecode
      cases hdecode
  | ok record =>
      rw [hrecord] at hdecode
      obtain rfl : record = r := Option.some.inj hdecode
      exact hdeclares.1
        (h (id, value) (by simp [hentries]) record hrecord child (by simp [hchildren]))

/-! ## The scene of a graph -/

namespace Catalog

variable {c : Catalog Float32} {g : Records} {root : String}

/-- There are groups of the nodes of a graph, and of nothing else. -/
theorem exists_group_iff (h : NodeDictionary.Explored g root c.nodes)
    (hroot : c.nodes.contains root = true) (material : MaterialHandle Float32) (id : String) :
    (∃ group ∈ (c.instantiate root material).groups, group.id = id) ↔
      ∃ node ∈ c.nodes.toList, node.id = id := by
  have hunfolds := unfolds_of_consistent h.consistent (fun _ _ => h.nodup_children) .empty hroot
    material
  exact hunfolds.exists_group_iff.trans h.reaches_iff

/-- A child of a node of a graph that is no node itself is told once. -/
theorem count_danglingChild (h : NodeDictionary.Explored g root c.nodes)
    (hroot : c.nodes.contains root = true) (material : MaterialHandle Float32)
    {node : Node Float32} (hnode : node ∈ c.nodes.toList) {child : String}
    (hchild : child ∈ node.children) (missing : c.nodes.contains child = false) :
    (c.instantiate root material).problems.count (.danglingChild node.id child) = 1 := by
  have found : c.nodes.get? node.id = some node :=
    h.consistent.get?_eq_some_iff.mpr ⟨hnode, rfl⟩
  have hfaulty : c.Faulty root (.danglingChild node.id child) :=
    .dangling (h.reaches_iff.mpr ⟨node, hnode, rfl⟩) ⟨node, found, hchild⟩ missing
  apply List.count_eq_one_of_mem
  · exact nodup_problems h.consistent .empty List.nodup_nil root material
  · exact (mem_problems_iff h.consistent .empty hroot material _).mpr (Or.inr hfaulty)

/-- Without a node for its root a scene shows nothing, and tells of that alone. -/
theorem instantiate_of_missing (hroot : c.nodes.contains root = false)
    (material : MaterialHandle Float32) :
    (c.instantiate root material).trees = [] ∧
      (c.instantiate root material).problems = [.danglingChild rootParent root] := by
  refine ⟨?_, problems_of_missing .empty hroot material⟩
  unfold instantiate instantiateAfter
  simp only [hroot, Bool.false_eq_true, if_false]

/-- The nodes of a graph that stop the program are those that carry a patch that does. -/
theorem exists_stops_iff (h : NodeDictionary.Explored g root c.nodes) :
    (∃ node ∈ c.nodes.toList, c.Stops node.id) ↔ g.Stops root := by
  calc (∃ node ∈ c.nodes.toList, c.Stops node.id)
      ↔ ∃ node ∈ c.nodes.toList, ∃ f, node.geometry = some (.figure f) ∧ f.build? = none := by
        refine exists_congr fun node => and_congr_right fun hnode => ?_
        have found : c.nodes.get? node.id = some node :=
          h.consistent.get?_eq_some_iff.mpr ⟨hnode, rfl⟩
        simp only [Stops, NodeDictionary.Carries, found, Option.some.injEq, exists_eq_left']
    _ ↔ ∃ patch, (∃ node ∈ c.nodes.toList, node.geometry = some (.figure (.nurbs patch))) ∧
          Shape.Stops patch := by
        simp only [Shape.build?_eq_none_iff]
        constructor
        · rintro ⟨node, hnode, f, hf, patch, rfl, hstops⟩
          exact ⟨patch, ⟨node, hnode, hf⟩, hstops⟩
        · rintro ⟨patch, ⟨node, hnode, hf⟩, hstops⟩
          exact ⟨node, hnode, _, hf, patch, rfl, hstops⟩
    _ ↔ g.Stops root := by
        simp only [h.exists_geometry_iff]
        constructor
        · rintro ⟨patch, ⟨id, r, hreaches, hr, hlast⟩, hstops⟩
          exact ⟨id, r, patch, hreaches, hr, hlast, hstops⟩
        · rintro ⟨id, r, patch, hreaches, hr, hlast, hstops⟩
          exact ⟨patch, ⟨id, r, hreaches, hr, hlast⟩, hstops⟩

/-- Showing a graph from its root stops the program where a node does. -/
theorem instantiate?_root_eq_none_iff (h : NodeDictionary.Explored g root c.nodes)
    (material : MaterialHandle Float32) :
    c.instantiate? root material = none ↔ g.Stops root := by
  rw [instantiate?_eq_none_iff h.consistent, ← exists_stops_iff h]
  cases hroot : c.nodes.contains root with
  | true =>
      constructor
      · rintro ⟨group, hgroup, hstops⟩
        obtain ⟨node, hnode, hid⟩ :=
          (exists_group_iff h hroot material _).mp ⟨group, hgroup, rfl⟩
        exact ⟨node, hnode, hid ▸ hstops⟩
      · rintro ⟨node, hnode, hstops⟩
        obtain ⟨group, hgroup, hid⟩ :=
          (exists_group_iff h hroot material _).mpr ⟨node, hnode, rfl⟩
        exact ⟨group, hgroup, hid ▸ hstops⟩
  | false =>
      -- there is neither a group nor a node
      have hconverts : g.decoded? root = none := by
        rw [← Option.not_isSome_iff_eq_none]
        intro hsome
        rw [h.contains_of_reachesIn .root hsome] at hroot
        cases hroot
      have hgroups : (c.instantiate root material).groups = [] := by
        rw [Scene.groups, (instantiate_of_missing hroot material).1, Tree.labels_nil]
      rw [hgroups, h.toList_eq_nil hconverts]
      exact iff_of_false (by simp) (by simp)

end Catalog

/-! ## Loaded scenes -/

namespace LoadedScene

/-- What is shown agrees with the nodes, both made from the same records. -/
structure Agrees (s : LoadedScene) (g : Records) : Prop where
  /-- If the record of the root converts, there are groups of the nodes and of nothing
  else. -/
  shown : (g.decoded? s.rootId).isSome = true → ∀ id,
    (∃ group ∈ s.scene.groups, group.id = id) ↔ ∃ node ∈ s.catalog.nodes.toList, node.id = id
  /-- Each child of a node that is no node itself is told once. -/
  dangling : (g.decoded? s.rootId).isSome = true → ∀ node ∈ s.catalog.nodes.toList,
    ∀ child ∈ node.children, s.catalog.nodes.contains child = false →
      s.scene.problems.count (.danglingChild node.id child) = 1
  /-- If it does not convert, there is neither a node nor a group.  The record is told, and
  that the root is missing. -/
  unreadable : g.decoded? s.rootId = none →
    s.catalog.nodes.toList = [] ∧ s.scene.trees = [] ∧
      (∃ value e, g.record? s.rootId = some value ∧ NodeRecord.decode value = .error e ∧
        .malformed .graph s.rootId e.message ∈ s.journal.problems) ∧
      s.scene.problems = [.danglingChild "rootid" s.rootId]

/-- The nodes of a scene explore the records of its document from the root. -/
theorem explored_ofSections (d : Document) (name : String) (options : LoadOptions) :
    NodeDictionary.Explored d.graph d.graph.rootId (ofSections d name options).catalog.nodes :=
  NodeDictionary.explored_ofRecords d.graph d.graph.rootId _

/-- A document with a record of its root comes to nothing if the program stops at one of the
records that are reached, and only then. -/
theorem ofDocument_eq_none_iff {d : Document} {name : String} {options : LoadOptions} :
    ofDocument d name options = none ↔
      (d.graph.record? d.graph.rootId).isSome = true ∧ d.graph.Stops d.graph.rootId := by
  unfold ofDocument
  split
  next hrecord =>
    rw [and_iff_right hrecord, rebuild?, Option.map_map, Option.map_eq_none_iff]
    exact Catalog.instantiate?_root_eq_none_iff (explored_ofSections d name options)
      options.defaultMaterial
  next hrecord => exact iff_of_false nofun fun h => hrecord h.1

/-- It is loaded if the program does not stop. -/
theorem exists_ofDocument {d : Document} (hrecord : (d.graph.record? d.graph.rootId).isSome = true)
    (hstops : ¬ d.graph.Stops d.graph.rootId) (name : String) (options : LoadOptions) :
    ∃ s, ofDocument d name options = some (.ok s) := by
  cases hbuilt : (ofSections d name options).rebuild? with
  | some s => exact ⟨s, ofDocument_eq_ok_iff.mpr ⟨hrecord, hbuilt⟩⟩
  | none =>
      have hnone : ofDocument d name options = none := by
        rw [ofDocument, if_pos hrecord, hbuilt]
        rfl
      exact absurd (ofDocument_eq_none_iff.mp hnone).2 hstops

/-- What is shown again is what the walk over the catalog shows. -/
theorem rebuild?_eq_some {s s' : LoadedScene} (h : s.rebuild? = some s') :
    s' = { s with scene := s.catalog.instantiate s.rootId s.defaultMaterial } := by
  obtain ⟨scene, hscene, rfl⟩ := Option.map_eq_some_iff.mp h
  rw [Catalog.instantiate_of_instantiate? hscene]

/-- What is shown of a document agrees with its nodes. -/
theorem agrees_of_ofDocument {d : Document} {name : String} {options : LoadOptions}
    {s : LoadedScene} (h : ofDocument d name options = some (.ok s)) :
    d.graph.rootId = s.rootId ∧ s.Agrees d.graph := by
  obtain ⟨hrecord, hscene⟩ := ofDocument_eq_ok_iff.mp h
  obtain rfl := rebuild?_eq_some hscene
  have hexplored := explored_ofSections d name options
  -- no reference leads from the root to itself, so it is built if its record converts
  have hcontains : (d.graph.decoded? d.graph.rootId).isSome = true →
      (ofSections d name options).catalog.nodes.contains d.graph.rootId = true :=
    hexplored.contains_of_reachesIn .root
  refine ⟨rfl, ?_, ?_, ?_⟩
  case refine_1 =>
    intro hroot id
    exact Catalog.exists_group_iff hexplored (hcontains hroot) options.defaultMaterial id
  case refine_2 =>
    intro hroot node hnode child hchild missing
    exact Catalog.count_danglingChild hexplored (hcontains hroot) options.defaultMaterial hnode
      hchild missing
  case refine_3 =>
    intro hroot
    have hnodes := hexplored.toList_eq_nil hroot
    have missing : (ofSections d name options).catalog.nodes.contains d.graph.rootId = false := by
      rw [hexplored.consistent.contains_eq_false_iff, hnodes]
      simp
    obtain ⟨value, e, hvalue, hdecode⟩ := Records.exists_error hrecord hroot
    obtain ⟨htrees, hproblems⟩ := Catalog.instantiate_of_missing missing options.defaultMaterial
    refine ⟨hnodes, htrees, ⟨value, e, hvalue, hdecode, ?_⟩, hproblems⟩
    exact NodeDictionary.mem_problems_ofRecords hvalue hdecode _

/-- Whenever a text can be loaded, what is shown of it agrees with its nodes. -/
theorem agrees_of_ofText {text name : String} {options : LoadOptions} {s : LoadedScene}
    (h : ofText text name options = some (.ok s)) :
    ∃ d, Document.parse text = .ok d ∧ d.graph.rootId = s.rootId ∧ s.Agrees d.graph := by
  unfold ofText at h
  cases hparse : Document.parse text with
  | error e =>
      rw [hparse] at h
      cases h
  | ok d =>
      rw [hparse] at h
      exact ⟨d, rfl, agrees_of_ofDocument h⟩

/-- One record that leads to itself and to an id without a record. -/
def alone : Records :=
  ⟨"a", [("a", .object [("children",
    .object [(NodeRecord.idsKey, .array [.string "a", .string "b"])])])]⟩

/-- A document with that record and nothing else. -/
def aloneDocument : Json :=
  .object [("graph", .object ((Records.rootKey, .string alone.rootId) :: alone.entries))]

/-- No figure stops the program where there is none. -/
theorem not_stops_alone : ¬ alone.Stops "a" := by
  apply Records.not_stops
  intro entry hentry r hr child hchild
  obtain rfl := List.mem_singleton.mp hentry
  cases hr
  obtain rfl := List.mem_singleton.mp hchild
  rfl

/-- A scene of one node agrees with its records. -/
theorem agrees_alone :
    ∃ s, ofText aloneDocument.compact "alone" .usual = some (.ok s) ∧
      (alone.decoded? s.rootId).isSome = true ∧ s.Agrees alone := by
  have hvalue : Json.parse aloneDocument.compact = .ok aloneDocument := by cbv
  have hparse : Document.parse aloneDocument.compact = .ok ⟨[], [], [], [], alone⟩ := by
    unfold Document.parse
    rw [hvalue]
    rfl
  obtain ⟨s, hs⟩ : ∃ s, ofDocument ⟨[], [], [], [], alone⟩ "alone" .usual = some (.ok s) :=
    exists_ofDocument rfl not_stops_alone "alone" .usual
  have hload : ofText aloneDocument.compact "alone" .usual = some (.ok s) := by
    unfold ofText
    rw [hparse]
    exact hs
  obtain ⟨d, hd, hroot, hagrees⟩ := agrees_of_ofText hload
  obtain rfl := Except.ok.inj (hparse.symm.trans hd)
  exact ⟨s, hload, by rw [← hroot]; decide, hagrees⟩

end LoadedScene

end Scenery
