import Scenery.Proofs.Node.Walk
import Scenery.Proofs.Node.Reach

/-!
# Nodes and their records

A record may hold anything under its children: ids that are repeated, items that are no ids,
geometries that convert and others that do not, in any order.  `NodeRecord.Renders` says what
the node of a record is, part by part.

*Steps.*  Those whose tags are known are kept in their order, and what a step leaves out is
filled in by its kind (`StepRecord.Says`).

*Geometry.*  The entries are gone through in order, and one that converts takes the place of the
one before it.  So the last one that converts is left, whatever stands behind it
(`LastDeclared`).

*Children.*  An id is a child if it is listed, once, at the place where it is first listed
(`ListedAhead`).

When the record of a reference is built, the walk puts the node in and one reference to each of
its children at the end of the queue, in their order and with the flags of the node
(`NodeDictionary.walk_renders`).  Nothing that comes later touches the node.
-/

namespace Scenery

/-! ## Steps -/

/-- The tag of a kind of step, in lower case. -/
def StepKind.tag : StepKind → String
  | .translate => "translate"
  | .rotate => "rotate"
  | .scale => "scale"

/-- Each kind of step has one name. -/
theorem StepKind.ofName?_eq_some_iff {name : String} {kind : StepKind} :
    ofName? name = some kind ↔ name = kind.tag := by
  constructor
  · intro h
    unfold ofName? at h
    split at h
    next hname => cases h; exact hname
    next =>
      split at h
      next hname => cases h; exact hname
      next =>
        split at h
        next hname => cases h; exact hname
        next => cases h
  · rintro rfl
    cases kind <;> rfl

namespace StepRecord

/-- The tag of a step is one of those that are known, in any case. -/
def isKnown (s : StepRecord) : Bool :=
  ["translate", "rotate", "scale"].contains (Text.lowerLatin s.tag)

/-- A step is of the kind of its tag, and goes as far along each axis as its record says.  Along
an axis that is left out it stretches by one, and shifts and turns by nothing. -/
structure Says (s : StepRecord) (step : Step Float32) : Prop where
  kind : Text.lowerLatin s.tag = step.kind.tag
  x : step.amount.x = s.x.getD (if step.kind = .scale then 1 else 0)
  y : step.amount.y = s.y.getD (if step.kind = .scale then 1 else 0)
  z : step.amount.z = s.z.getD (if step.kind = .scale then 1 else 0)

/-- A step is known if its tag is the name of a kind, in letters of either case. -/
theorem isKnown_iff {s : StepRecord} :
    s.isKnown = true ↔ ∃ kind : StepKind, Text.lowerLatin s.tag = kind.tag := by
  unfold isKnown
  rw [List.contains_iff_mem]
  constructor
  · simp only [List.mem_cons, List.not_mem_nil, or_false]
    rintro (h | h | h)
    · exact ⟨.translate, h⟩
    · exact ⟨.rotate, h⟩
    · exact ⟨.scale, h⟩
  · rintro ⟨kind, h⟩
    rw [h]
    cases kind <;> decide

/-- A step of a known kind has its written amounts, and the neutral one where none is written. -/
theorem step?_eq_some {s : StepRecord} {kind : StepKind} (h : Text.lowerLatin s.tag = kind.tag) :
    s.step? = some
      ⟨kind, ⟨s.x.getD kind.neutral, s.y.getD kind.neutral, s.z.getD kind.neutral⟩⟩ := by
  unfold step?
  rw [StepKind.ofName?_eq_some_iff.mpr h]
  rfl

/-- A step of no known kind is left out. -/
theorem step?_eq_none {s : StepRecord} (h : s.isKnown = false) : s.step? = none := by
  unfold step?
  rw [Option.map_eq_none_iff, Option.eq_none_iff_forall_ne_some]
  intro kind hkind
  rw [isKnown_iff.mpr ⟨kind, StepKind.ofName?_eq_some_iff.mp hkind⟩] at h
  cases h

end StepRecord

/-- The steps of a record are what those with known tags say. -/
theorem NodeRecord.forall₂_says (transforms : List StepRecord) :
    List.Forall₂ StepRecord.Says (transforms.filter StepRecord.isKnown)
      (transforms.filterMap StepRecord.step?) := by
  induction transforms with
  | nil => exact .nil
  | cons s rest ih =>
      cases hknown : s.isKnown with
      | false =>
          rw [List.filter_cons_of_neg (by simp [hknown]),
            List.filterMap_cons_none (StepRecord.step?_eq_none hknown)]
          exact ih
      | true =>
          obtain ⟨kind, hkind⟩ := StepRecord.isKnown_iff.mp hknown
          rw [List.filter_cons_of_pos hknown,
            List.filterMap_cons_some (StepRecord.step?_eq_some hkind)]
          refine .cons ⟨hkind, ?_, ?_, ?_⟩ ih <;> cases kind <;> rfl

/-! ## Geometries -/

namespace NodeRecord

/-- An entry of the children of a record is a geometry that converts. -/
def Declares (entry : String × Json) (x : Geometry Float32) : Prop :=
  entry.1 ≠ idsKey ∧ Geometry.ofDeclaration entry.2 = .ok x

/-- The last geometry among entries that converts. -/
def LastDeclared (entries : Json.Members) (x : Geometry Float32) : Prop :=
  ∃ before entry after, entries = before ++ entry :: after ∧ Declares entry x ∧
    ∀ other ∈ after, ∀ y, ¬ Declares other y

variable {entries : Json.Members} {entry : String × Json} {x : Geometry Float32}

/-- An entry declares one geometry at most. -/
theorem Declares.unique {y : Geometry Float32} (hx : Declares entry x) (hy : Declares entry y) :
    x = y :=
  Except.ok.inj (hx.2.symm.trans hy.2)

/-- An entry at the end is the last one if it converts, and otherwise leaves the one before it in
place. -/
theorem lastDeclared_append_singleton_iff : LastDeclared (entries ++ [entry]) x ↔
    Declares entry x ∨ (∀ y, ¬ Declares entry y) ∧ LastDeclared entries x := by
  constructor
  · rintro ⟨before, found, after, heq, hfound, hafter⟩
    rcases List.eq_nil_or_concat' after with rfl | ⟨after, last, rfl⟩
    · obtain ⟨-, hlast⟩ := List.append_inj' heq rfl
      cases hlast
      exact Or.inl hfound
    · rw [← List.cons_append, ← List.append_assoc] at heq
      obtain ⟨rfl, hlast⟩ := List.append_inj' heq rfl
      cases hlast
      refine Or.inr ⟨hafter entry (by simp), before, found, after, rfl, hfound, ?_⟩
      exact fun other hother => hafter other (List.mem_append_left _ hother)
  · rintro (hentry | ⟨hnot, before, found, after, rfl, hfound, hafter⟩)
    · exact ⟨entries, entry, [], rfl, hentry, fun _ hother => absurd hother List.not_mem_nil⟩
    · refine ⟨before, found, after ++ [entry], by simp, hfound, ?_⟩
      intro other hother
      rcases List.mem_append.mp hother with hold | hnew
      · exact hafter other hold
      · rw [List.mem_singleton.mp hnew]
        exact hnot

/-- An entry that declares a geometry replaces the one before it. -/
theorem Payload.geometry_step_of_declares (id : String) (p : Payload) (h : Declares entry x) :
    (p.step id entry).geometry = some x := by
  unfold step
  rw [if_neg h.1, h.2]
  cases p.geometry <;> rfl

/-- An entry that declares none keeps the one before it. -/
theorem Payload.geometry_step_of_not (id : String) (p : Payload) (h : ∀ y, ¬ Declares entry y) :
    (p.step id entry).geometry = p.geometry := by
  unfold step
  split
  next => rfl
  next hkey =>
    cases hx : Geometry.ofDeclaration entry.2 with
    | error e => rfl
    | ok y => exact absurd ⟨hkey, hx⟩ (h y)

/-- What is left of the entries is the last geometry that converts, by induction from the end. -/
theorem geometry_foldl_eq_some_iff (id : String) (journal : Journal) (entries : Json.Members)
    (x : Geometry Float32) :
    (entries.foldl (Payload.step id) ⟨none, journal⟩).geometry = some x ↔
      LastDeclared entries x := by
  induction entries using List.reverseRecOn with
  | nil =>
      constructor
      · intro h
        cases h
      · rintro ⟨before, entry, after, heq, -⟩
        exact absurd heq.symm (by simp)
  | append_singleton entries entry ih =>
      rw [List.foldl_append, List.foldl_cons, List.foldl_nil, lastDeclared_append_singleton_iff]
      by_cases hentry : ∃ y, Declares entry y
      · obtain ⟨y, hy⟩ := hentry
        rw [Payload.geometry_step_of_declares id _ hy, Option.some.injEq]
        constructor
        · rintro rfl
          exact Or.inl hy
        · rintro (hx | ⟨hnot, -⟩)
          · exact hy.unique hx
          · exact absurd hy (hnot y)
      · rw [not_exists] at hentry
        rw [Payload.geometry_step_of_not id _ hentry, ih, or_iff_right (hentry x),
          and_iff_right hentry]

/-- Where an entry converts there is a last one that does. -/
theorem exists_lastDeclared (hentry : entry ∈ entries) (hx : Declares entry x) :
    ∃ y, LastDeclared entries y := by
  induction entries using List.reverseRecOn with
  | nil => cases hentry
  | append_singleton entries last ih =>
      simp only [lastDeclared_append_singleton_iff]
      by_cases hlast : ∃ y, Declares last y
      · obtain ⟨y, hy⟩ := hlast
        exact ⟨y, Or.inl hy⟩
      · rw [not_exists] at hlast
        rcases List.mem_append.mp hentry with hold | hnew
        · obtain ⟨y, hy⟩ := ih hold
          exact ⟨y, Or.inr ⟨hlast, hy⟩⟩
        · rw [List.mem_singleton] at hnew
          subst hnew
          exact absurd hx (hlast x)

/-- A node is without a geometry exactly if no entry declares one. -/
theorem geometry_foldl_eq_none_iff (id : String) (journal : Journal) (entries : Json.Members) :
    (entries.foldl (Payload.step id) ⟨none, journal⟩).geometry = none ↔
      ∀ entry ∈ entries, ∀ x, ¬ Declares entry x := by
  rw [Option.eq_none_iff_forall_ne_some]
  simp only [ne_eq, geometry_foldl_eq_some_iff]
  constructor
  · intro hnone entry hentry x hx
    obtain ⟨y, hy⟩ := exists_lastDeclared hentry hx
    exact hnone y hy
  · rintro hnone x ⟨before, entry, after, rfl, hx, -⟩
    exact hnone entry (List.mem_append_right _ (List.mem_cons_self ..)) x hx

/-! ## Children -/

/-- An id is listed at a place before which another is not listed. -/
def ListedAhead (items : List Json) (id other : String) : Prop :=
  ∃ before after, items = before ++ .string id :: after ∧ .string other ∉ before

/-- Items that follow do not change which of two ids is listed first. -/
theorem ListedAhead.append {items : List Json} {id other : String}
    (h : ListedAhead items id other) (more : List Json) :
    ListedAhead (items ++ more) id other := by
  obtain ⟨before, after, rfl, hbefore⟩ := h
  exact ⟨before, after ++ more, by simp, hbefore⟩

theorem eraseDups_append_singleton (ids : List String) (id : String) :
    (ids ++ [id]).eraseDups = ids.eraseDups ++ if id ∈ ids then [] else [id] := by
  rw [List.eraseDups_append]
  by_cases h : id ∈ ids <;> simp [List.removeAll, h, List.eraseDups_cons]

theorem mem_filterMap_text {items : List Json} {id : String} :
    id ∈ items.filterMap Json.text? ↔ .string id ∈ items := by
  have hids : id ∈ idsOf (.array items) ↔ _ := mem_idsOf
  exact hids.trans (by simp)

/-- Of the texts among some items, each at its first place, one is listed before those behind
it. -/
theorem pairwise_listedAhead (items : List Json) :
    (items.filterMap Json.text?).eraseDups.Pairwise (ListedAhead items) := by
  induction items using List.reverseRecOn with
  | nil => exact .nil
  | append_singleton items item ih =>
      have hold := ih.imp fun h => h.append [item]
      rw [List.filterMap_append]
      cases htext : item.text? with
      | none => simpa [htext] using hold
      | some id =>
          rw [List.filterMap_cons_some htext, List.filterMap_nil, eraseDups_append_singleton]
          split
          next => simpa using hold
          next hnew =>
            rw [List.pairwise_append]
            refine ⟨hold, List.pairwise_singleton _ _, ?_⟩
            intro a ha b hb
            obtain rfl := List.mem_singleton.mp hb
            rw [List.mem_eraseDups, mem_filterMap_text] at ha
            rw [mem_filterMap_text] at hnew
            -- the new id is not listed before, so not before a place where `a` is listed
            obtain ⟨before, after, rfl⟩ := List.append_of_mem ha
            exact ⟨before, after ++ [item], by simp, fun h => hnew (List.mem_append_left _ h)⟩

/-- The children stand in the order in which their ids are listed first. -/
theorem pairwise_childIds {r : NodeRecord} {items : List Json}
    (h : r.children.lookup idsKey = some (.array items)) :
    r.childIds.Pairwise (ListedAhead items) := by
  unfold childIds
  rw [h]
  exact pairwise_listedAhead items

/-- Without a list of ids a record has no children. -/
theorem childIds_eq_nil {r : NodeRecord}
    (h : ∀ items, r.children.lookup idsKey ≠ some (.array items)) : r.childIds = [] := by
  rw [List.eq_nil_iff_forall_not_mem]
  intro id hid
  obtain ⟨items, hitems, -⟩ := mem_childIds.mp hid
  exact h items hitems

/-! ## The node of a record -/

/-- A node is what a record says that is referred to. -/
structure Renders (r : NodeRecord) (ref : Reference) (node : Node Float32) : Prop where
  /-- It has the id of the reference and the type of the record. -/
  id : node.id = ref.id
  type : node.type = r.type
  /-- Its material is named in lower case. -/
  material : node.materialRef = r.materialId.map Text.lower
  /-- Its flags are those of the record, or else of the reference. -/
  castShadows : node.castShadows = r.castShadows.getD ref.castShadows
  receiveShadows : node.receiveShadows = r.receiveShadows.getD ref.receiveShadows
  /-- Its steps are what the steps with known tags say, in their order. -/
  steps : List.Forall₂ StepRecord.Says (r.transforms.filter StepRecord.isKnown) node.steps
  /-- It carries the last geometry that converts, and none if none does. -/
  geometry : ∀ x, node.geometry = some x ↔ LastDeclared r.children x
  bare : node.geometry = none ↔ ∀ entry ∈ r.children, ∀ x, ¬ Declares entry x
  /-- Its children are the ids that are listed, each once. -/
  distinct : node.children.Nodup
  listed : ∀ id, id ∈ node.children ↔ r.Lists id
  /-- They stand in the order in which they are first listed. -/
  ordered : ∀ items, r.children.lookup idsKey = some (.array items) →
    node.children.Pairwise (ListedAhead items)
  /-- There are none if no ids are listed. -/
  childless : (∀ items, r.children.lookup idsKey ≠ some (.array items)) → node.children = []

/-- The node of a record is what the record says, in every field. -/
theorem renders_node (r : NodeRecord) (ref : Reference) : r.Renders ref (r.node ref) where
  id := rfl
  type := rfl
  material := rfl
  castShadows := rfl
  receiveShadows := rfl
  steps := forall₂_says r.transforms
  geometry := geometry_foldl_eq_some_iff ref.id _ r.children
  bare := geometry_foldl_eq_none_iff ref.id _ r.children
  distinct := r.nodup_childIds
  listed _ := mem_childIds
  ordered _ := pairwise_childIds
  childless := childIds_eq_nil

end NodeRecord

/-- References are one to each child of a node, in order and with its flags. -/
structure Node.Queues (node : Node Float32) (queued : List Reference) : Prop where
  children : queued.map Reference.id = node.children
  castShadows : ∀ ref ∈ queued, ref.castShadows = node.castShadows
  receiveShadows : ∀ ref ∈ queued, ref.receiveShadows = node.receiveShadows

/-- A node asks for each of its children once, in their order. -/
theorem Node.queues_references (node : Node Float32) : node.Queues node.references where
  children := by simp [references, Function.comp_def]
  castShadows := by simp [references]
  receiveShadows := by simp [references]

/-! ## A turn that builds a node -/

namespace NodeDictionary

variable {g : Records} {d : NodeDictionary Float32} {ref : Reference} {queue rest : List Reference}
  {journal : Journal}

/-- A node that is there stays as it is. -/
theorem kept_get? (g : Records) (id : String) (node : Node Float32) :
    KeptByTurns g fun _ _ d _ => d.get? id = some node where
  again h _ := h
  noRecord h _ _ := h
  malformed h _ _ _ := h
  build h _ _ _ := get?_insert_of_get? h _

/-- When the reference is taken to an id that is not built and whose record converts, the walk
goes on with the node of the record put in, and with one more reference to each of its children
at the end of the queue.  The node is what the record says, and is there in the end. -/
theorem walk_renders {value : Json} {r : NodeRecord} (hnew : d.contains ref.id = false)
    (hr : g.record? ref.id = some value) (hd : NodeRecord.decode value = .ok r) :
    ∃ node queued, r.Renders ref node ∧ node.Queues queued ∧
      walk g (ref :: rest) d journal =
        walk g (rest ++ queued) (d.insert node).1 (r.build ref journal).2 ∧
      (walk g (ref :: rest) d journal).1.get? ref.id = some node := by
  have hput : (d.insert (r.node ref)).1.get? ref.id = some (r.node ref) := get?_insert_self hnew
  refine ⟨r.node ref, (r.node ref).references, r.renders_node ref, (r.node ref).queues_references,
    walk_build hnew hr hd, ?_⟩
  rw [walk_build hnew hr hd]
  exact (kept_get? g ref.id _).walk [] hput

/-- Children of all kinds: a geometry that converts between two that do not, and a list with an
id that comes twice and an item that is no id. -/
def mixedChildren : Json.Members :=
  [("odd", .object [("type", .string "teapot")]),
    (NodeRecord.idsKey, .array [.string "b", .null, .string "a", .string "b"]),
    ("face", .object [("type", .string "Triangle"), ("xyz1", .object []), ("xyz2", .object []),
      ("xyz3", .object [])]),
    ("late", .object [("type", .string "sphere")])]

/-- A record with those children, with a step that is known and one that is not. -/
def mixedRecord : NodeRecord :=
  { type := "node"
    transforms := [⟨"shear", none, none, none⟩, ⟨"Scale", none, none, none⟩]
    materialId := none
    castShadows := some true
    receiveShadows := none
    children := mixedChildren }

/-- The record as it is written. -/
def mixedValue : Json :=
  .object [("castshadows", .bool true), ("children", .object mixedChildren),
    ("transforms", .array [.object [("type", .string "shear")],
      .object [("type", .string "Scale")]])]

/-- The walk of a graph with that record alone. -/
theorem walk_mixed :
    ∃ node queued, mixedRecord.Renders (.root "a") node ∧ node.Queues queued ∧
      walk ⟨"a", [("a", mixedValue)]⟩ [.root "a"] empty .empty =
        walk ⟨"a", [("a", mixedValue)]⟩ queued (empty.insert node).1
          (mixedRecord.build (.root "a") .empty).2 ∧
      (walk ⟨"a", [("a", mixedValue)]⟩ [.root "a"] empty .empty).1.get? "a" = some node := by
  have hnew : (empty : NodeDictionary Float32).contains "a" = false :=
    consistent_empty.contains_eq_false_iff.mpr (by simp [toList_empty])
  have hd : NodeRecord.decode mixedValue = .ok mixedRecord := rfl
  exact walk_renders hnew rfl hd

end NodeDictionary

end Scenery
