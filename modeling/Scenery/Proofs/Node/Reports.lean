import Scenery.Load
import Scenery.Proofs.Node.Rendering
import Scenery.Proofs.Omission.Graph

/-!
# What is told of a graph

Building the nodes of a graph adds problems to a journal.  `Records.Reports` says which ones,
id by id: nothing for an id without a record, one problem for a record that does not convert,
and for any other what is told of its steps and then, entry by entry, of its children
(`NodeRecord.Reports`).  The ids come in the order in which references to them are first taken
(`reports_ofRecords`).

A walk comes to an id as often as there are references to it.  The node of a record is built the
first time and passed over from then on.  A record that does not convert is read every time, and
its problem is added if the journal does not hold it, so the journal has to be known: it holds
the problem after the first time, and before that nothing can have put it there, since no other
id tells it (`Records.id_of_mem_told`) and it was not there at the start.  That is so in a load,
where the sections before the graph tell of their own entries only
(`LoadedScene.reports_ofSections`).
-/

namespace Scenery

/-! ## What is told of a record -/

namespace NodeRecord

/-- What is told of an entry of the children of a node. -/
inductive EntryReports (id : String) : String × Json → List Diagnostic → Prop where
  /-- The ids are no list. -/
  | noList {value : Json} (other : value.items? = none) :
      EntryReports id (idsKey, value)
        [.malformed .graph s!"{id}/{idsKey}" "expected a list of node ids"]
  /-- Each item of a list of ids that is no text is told. -/
  | ids {items : List Json} :
      EntryReports id (idsKey, .array items)
        ((items.filter fun item => item.text?.isNone).map fun item =>
          .malformed .graph s!"{id}/{idsKey}" s!"child id {item.compact} is not a string")
  /-- A geometry that converts is not told. -/
  | geometry {key : String} {value : Json} {x : Geometry Float32} (inline : key ≠ idsKey)
      (converts : Geometry.ofDeclaration value = .ok x) : EntryReports id (key, value) []
  /-- Its tag is not known. -/
  | unknownTag {key tag : String} {value : Json} (inline : key ≠ idsKey)
      (error : Geometry.ofDeclaration value = .error (.unknownTag tag)) :
      EntryReports id (key, value) [.unknownGeometry id tag]
  /-- It has no tag. -/
  | missingTag {key : String} {value : Json} (inline : key ≠ idsKey)
      (error : Geometry.ofDeclaration value = .error .missingTag) :
      EntryReports id (key, value) [.malformed .graph s!"{id}/{key}" "declaration has no 'type'"]
  /-- Its fields do not convert. -/
  | invalid {key : String} {value : Json} {tag : Tag} {cause : Json.DecodeError}
      (inline : key ≠ idsKey) (error : Geometry.ofDeclaration value = .error (.invalid tag cause)) :
      EntryReports id (key, value)
        [.malformed .graph s!"{id}/{key}" s!"invalid {tag.name}: {cause.message}"]

/-- What is told of a record that converts: first of its steps, and then of its children. -/
inductive Reports (r : NodeRecord) (id : String) : List Diagnostic → Prop where
  | intro {blocks : List (List Diagnostic)}
      (children : List.Forall₂ (EntryReports id) r.children blocks) :
      Reports r id (((r.transforms.filter fun s => !s.isKnown).map fun s =>
        .unknownTransform id s.tag) ++ blocks.flatten)

/-- What is told of a child entry is what its value calls for. -/
theorem entryReports_toldOfChild (id : String) (entry : String × Json) :
    EntryReports id entry (toldOfChild id entry) := by
  obtain ⟨key, value⟩ := entry
  by_cases hkey : key = idsKey
  · subst hkey
    rw [toldOfChild, if_pos rfl, idProblems]
    cases value with
    | array items => exact .ids
    | null | bool | number | string | object => exact .noList rfl
  · rw [toldOfChild, if_neg hkey]
    cases hx : Geometry.ofDeclaration value with
    | ok x => exact .geometry hkey hx
    | error e =>
        cases e with
        | missingTag => exact .missingTag hkey hx
        | unknownTag tag => exact .unknownTag hkey hx
        | invalid tag cause => exact .invalid hkey hx

theorem isNone_step? (s : StepRecord) : s.step?.isNone = !s.isKnown := by
  cases hknown : s.isKnown with
  | false => rw [StepRecord.step?_eq_none hknown]; rfl
  | true =>
      obtain ⟨kind, hkind⟩ := StepRecord.isKnown_iff.mp hknown
      rw [StepRecord.step?_eq_some hkind]
      rfl

/-- What is told of a record that converts: its unknown steps first, then each child entry. -/
theorem reports_told (r : NodeRecord) (id : String) : r.Reports id (r.told id) := by
  have hchildren : List.Forall₂ (EntryReports id) r.children (r.children.map (toldOfChild id)) := by
    rw [List.forall₂_map_right_iff, List.forall₂_same]
    exact fun entry _ => entryReports_toldOfChild id entry
  have htold : r.told id = ((r.transforms.filter fun s => !s.isKnown).map fun s =>
      .unknownTransform id s.tag) ++ (r.children.map (toldOfChild id)).flatten := by
    simp only [told, unknownTags, isNone_step?, List.map_map, List.flatMap_def, Function.comp_def]
  rw [htold]
  exact .intro hchildren

end NodeRecord

/-! ## What is told of an id -/

namespace Records

variable {g : Records} {id : String}

/-- What is told of an id. -/
inductive Reports (g : Records) (id : String) : List Diagnostic → Prop where
  /-- Nothing, without a record. -/
  | noRecord (missing : g.record? id = none) : Reports g id []
  /-- Its record does not convert. -/
  | malformed {value : Json} {e : Json.DecodeError} (record : g.record? id = some value)
      (error : NodeRecord.decode value = .error e) :
      Reports g id [.malformed .graph id e.message]
  /-- Its record converts, and is told about. -/
  | built {value : Json} {r : NodeRecord} {reports : List Diagnostic}
      (record : g.record? id = some value) (converts : NodeRecord.decode value = .ok r)
      (told : r.Reports id reports) : Reports g id reports

/-- The problems that are told of an id. -/
def told (g : Records) (id : String) : List Diagnostic :=
  match g.record? id with
  | none => []
  | some value =>
      match NodeRecord.decode value with
      | .error e => [.malformed .graph id e.message]
      | .ok r => r.told id

/-- Nothing is told of an id without a record. -/
theorem told_of_noRecord (h : g.record? id = none) : g.told id = [] := by
  rw [told, h]

/-- A record that does not convert is told of once. -/
theorem told_of_error {value : Json} {e : Json.DecodeError} (h : g.record? id = some value)
    (he : NodeRecord.decode value = .error e) : g.told id = [.malformed .graph id e.message] := by
  simp only [told, h, he]

/-- Of a record that converts the record's own problems are told. -/
theorem told_of_ok {value : Json} {r : NodeRecord} (h : g.record? id = some value)
    (hd : NodeRecord.decode value = .ok r) : g.told id = r.told id := by
  simp only [told, h, hd]

/-- What is told of an id is what its record calls for, whether or not it converts. -/
theorem reports_told (g : Records) (id : String) : g.Reports id (g.told id) := by
  cases hr : g.record? id with
  | none =>
      rw [told_of_noRecord hr]
      exact .noRecord hr
  | some value =>
      cases hd : NodeRecord.decode value with
      | error e =>
          rw [told_of_error hr hd]
          exact .malformed hr hd
      | ok r =>
          rw [told_of_ok hr hd]
          exact .built hr hd (r.reports_told id)

/-- The problem of a record that does not convert is told of its own id only. -/
theorem id_of_mem_told {other : String} {e : Json.DecodeError}
    (h : .malformed .graph id e.message ∈ g.told other) : id = other := by
  cases hr : g.record? other with
  | none =>
      rw [told_of_noRecord hr] at h
      cases h
  | some value =>
      cases hd : NodeRecord.decode value with
      | error cause =>
          rw [told_of_error hr hd] at h
          exact (Diagnostic.malformed.inj (List.mem_singleton.mp h)).2.1
      | ok r =>
          rw [told_of_ok hr hd] at h
          exact absurd h (r.not_mem_told other id .graph e)

end Records

/-! ## What a walk tells -/

/-- The ids of references, each where it first comes up. -/
def Reference.firstIds (refs : List Reference) : List String := (refs.map Reference.id).eraseDups

namespace Reference

variable {done : List Reference} {ref : Reference}

/-- The first ids are those of the references. -/
theorem mem_firstIds {id : String} : id ∈ firstIds done ↔ ∃ ref ∈ done, ref.id = id := by
  rw [firstIds, List.mem_eraseDups, List.mem_map]

/-- A reference to an id that has come up before adds no first id. -/
theorem firstIds_append_of_mem (h : ref.id ∈ firstIds done) :
    firstIds (done ++ [ref]) = firstIds done := by
  rw [firstIds, List.mem_eraseDups] at h
  rw [firstIds, List.map_append, List.map_singleton, NodeRecord.eraseDups_append_singleton,
    if_pos h, List.append_nil, firstIds]

/-- A reference to a new id adds that id at the end. -/
theorem firstIds_append_of_not_mem (h : ref.id ∉ firstIds done) :
    firstIds (done ++ [ref]) = firstIds done ++ [ref.id] := by
  rw [firstIds, List.mem_eraseDups] at h
  rw [firstIds, List.map_append, List.map_singleton, NodeRecord.eraseDups_append_singleton,
    if_neg h, firstIds]

end Reference

/-- No entry of a section is told to be malformed. -/
def Journal.Spares (part : Part) (j : Journal) : Prop :=
  ∀ id message, .malformed part id message ∉ j.problems

open Reference in
/-- A journal holds what it held at the start, and what is told of the ids of the references
that were taken. -/
def Records.Told (g : Records) (start : Journal) (done : List Reference) (j : Journal) : Prop :=
  j.problems = start.problems ++ (firstIds done).flatMap g.told

namespace Records.Told

variable {g : Records} {start j k : Journal} {done : List Reference} {ref : Reference}

/-- A reference to an id that has come up before adds nothing. -/
theorem again (h : g.Told start done j) (href : ref.id ∈ Reference.firstIds done)
    (hk : k.problems = j.problems) : g.Told start (done ++ [ref]) k := by
  unfold Told
  rw [hk, Reference.firstIds_append_of_mem href]
  exact h

/-- The first reference to an id adds what is told of the id. -/
theorem first (h : g.Told start done j) (href : ref.id ∉ Reference.firstIds done)
    (hk : k.problems = j.problems ++ g.told ref.id) : g.Told start (done ++ [ref]) k := by
  unfold Told
  rw [hk, h, Reference.firstIds_append_of_not_mem href, List.flatMap_append, List.append_assoc,
    List.flatMap_singleton]

/-- A reference to an id without a record tells nothing. -/
theorem noRecord (h : g.Told start done j) (hr : g.record? ref.id = none) (n : Note) :
    g.Told start (done ++ [ref]) (j.note n) := by
  by_cases href : ref.id ∈ Reference.firstIds done
  · exact h.again href (Journal.problems_note ..)
  · refine h.first href ?_
    rw [Journal.problems_note, told_of_noRecord hr, List.append_nil]

/-- The problem of a record that does not convert is added by the first reference to it, and is
there when the next one is taken. -/
theorem malformed (h : g.Told start done j) (hstart : start.Spares .graph) {value : Json}
    {e : Json.DecodeError} (hr : g.record? ref.id = some value)
    (he : NodeRecord.decode value = .error e) :
    g.Told start (done ++ [ref]) (j.addOnce (.malformed .graph ref.id e.message)) := by
  have hown : .malformed .graph ref.id e.message ∈ g.told ref.id := by
    rw [told_of_error hr he]
    exact List.mem_cons_self ..
  by_cases href : ref.id ∈ Reference.firstIds done
  · refine h.again href ?_
    have hthere : .malformed .graph ref.id e.message ∈ j.problems := by
      rw [h]
      exact List.mem_append_right _ (List.mem_flatMap.mpr ⟨ref.id, href, hown⟩)
    rw [Journal.problems_addOnce, if_pos hthere]
  · refine h.first href ?_
    have hnew : .malformed .graph ref.id e.message ∉ j.problems := by
      rw [h, List.mem_append]
      rintro (hbefore | hmem)
      · exact hstart _ _ hbefore
      · obtain ⟨other, hother, htold⟩ := List.mem_flatMap.mp hmem
        exact href (id_of_mem_told htold ▸ hother)
    rw [Journal.problems_addOnce, if_neg hnew, told_of_error hr he]

/-- A record that is built tells its own problems, after everything told before. -/
theorem built (h : g.Told start done j) (href : ref.id ∉ Reference.firstIds done) {value : Json}
    {r : NodeRecord} (hr : g.record? ref.id = some value) (hd : NodeRecord.decode value = .ok r) :
    g.Told start (done ++ [ref]) (r.build ref j).2 := by
  refine h.first href ?_
  rw [NodeRecord.problems_build, told_of_ok hr hd]

end Records.Told

namespace NodeDictionary

variable {g : Records} {root : String} {d : NodeDictionary Float32} {done queue : List Reference}
  {start j : Journal}

/-- A walk tells of the references it takes, in the order in which it takes them. -/
theorem kept_told (hstart : start.Spares .graph) (root : String) :
    KeptByTurns g fun done queue d j => Progress g root done queue d ∧ g.Told start done j where
  again h hbuilt := by
    obtain ⟨hprogress, htold⟩ := h
    refine ⟨hprogress.skip fun _ => hbuilt, htold.again ?_ (Journal.problems_note ..)⟩
    obtain ⟨node, hnode, hid⟩ := hprogress.consistent.contains_iff.mp hbuilt
    rw [← hid]
    exact Reference.mem_firstIds.mpr (hprogress.referred hnode)
  noRecord h _ hrecord := ⟨h.1.skip_noRecord hrecord, h.2.noRecord hrecord _⟩
  malformed h _ hrecord hdecode :=
    ⟨h.1.skip_malformed hrecord hdecode, h.2.malformed hstart hrecord hdecode⟩
  build h hnew hrecord hdecode := by
    obtain ⟨hprogress, htold⟩ := h
    have hd := Records.decoded?_of_ok hrecord hdecode
    refine ⟨hprogress.build hnew hd, htold.built ?_ hrecord hdecode⟩
    -- an id that had come up before would be built by now
    intro hbefore
    obtain ⟨other, hother, hid⟩ := Reference.mem_firstIds.mp hbefore
    exact hprogress.fresh hnew (by rw [hd]; rfl) other hother hid

/-- A walk tells of the ids of all the references it takes, once each and in their order. -/
theorem told_ofRecords (hstart : start.Spares .graph) (g : Records) (root : String) :
    g.Told start (taken g [.root root] empty) (ofRecords g root start).2 := by
  have hempty : g.Told start [] start := (List.append_nil _).symm
  have htold := ((kept_told hstart root).walk [] ⟨progress_empty g root, hempty⟩).2
  exact (Journal.problems_note ..).trans htold

end NodeDictionary

/-- A journal that tells of references holds a block of problems for each of their ids. -/
theorem Records.Told.exists_reports {g : Records} {start j : Journal} {done : List Reference}
    (h : g.Told start done j) :
    ∃ blocks, List.Forall₂ g.Reports (Reference.firstIds done) blocks ∧
      j.problems = start.problems ++ blocks.flatten := by
  refine ⟨(Reference.firstIds done).map g.told, ?_, by rw [h, List.flatMap_def]⟩
  rw [List.forall₂_map_right_iff, List.forall₂_same]
  exact fun id _ => g.reports_told id

namespace NodeDictionary

/-- Building the nodes of a graph tells of the ids that are come to, in the order in which
references to them are first taken, and leaves what was told before as it was. -/
theorem reports_ofRecords {start : Journal} (hstart : start.Spares .graph) (g : Records)
    (root : String) :
    ∃ blocks, List.Forall₂ g.Reports (Reference.firstIds (taken g [.root root] empty)) blocks ∧
      (ofRecords g root start).2.problems = start.problems ++ blocks.flatten :=
  (told_ofRecords hstart g root).exists_reports

/-- A graph where two nodes list a third whose record does not convert, and one of them an item
that is no id. -/
def twiceSpoiled : Records :=
  ⟨"a", [("a", .object [("children", .object [(NodeRecord.idsKey,
      .array [.string "b", .string "c"])])]),
    ("b", .object [("children", .object [(NodeRecord.idsKey, .array [.string "d"])])]),
    ("c", .object [("children", .object [(NodeRecord.idsKey, .array [.string "d", .null])])]),
    ("d", .bool true)]⟩

/-- A journal that tells of a camera. -/
def cameraTold : Journal := Journal.empty.add (.malformed .cameras "front" "missing fields")

/-- Two parents list a spoiled record, and it is told of once. -/
theorem reports_twiceSpoiled :
    ∃ blocks, List.Forall₂ twiceSpoiled.Reports
        (Reference.firstIds (taken twiceSpoiled [.root "a"] empty)) blocks ∧
      (ofRecords twiceSpoiled "a" cameraTold).2.problems =
        [.malformed .cameras "front" "missing fields"] ++ blocks.flatten := by
  have hstart : cameraTold.Spares .graph := by
    intro id message hmem
    cases List.mem_singleton.mp hmem
  exact reports_ofRecords hstart twiceSpoiled "a"

end NodeDictionary

/-! ## What is told in a load -/

namespace Journal

variable {part other : Part} {j k : Journal}

/-- Sparing a part depends on the problems only. -/
theorem Spares.congr (hj : j.Spares part) (hk : k.problems = j.problems) : k.Spares part := by
  unfold Spares
  rw [hk]
  exact hj

/-- Reading a section tells of its own entries only. -/
theorem Spares.foldl {β : Type} {step : β × Journal → String × Json → β × Journal}
    {told : String × Json → List Diagnostic} (hj : j.Spares other) (h : Telling part step told)
    (hother : other ≠ part) (entries : Json.Members) (b : β) :
    (entries.foldl step (b, j)).2.Spares other := by
  intro id message hmem
  rw [h.foldl_problems, List.mem_append] at hmem
  rcases hmem with hbefore | htold
  · exact hj id message hbefore
  · obtain ⟨entry, -, hentry⟩ := List.mem_flatMap.mp htold
    exact hother (h.own entry _ _ _ hentry).1

/-- The globals tell nothing of the graph. -/
theorem Spares.globals (hj : j.Spares .graph) (entries : Json.Members) :
    (Globals.ofSection entries j).2.Spares .graph := by
  unfold Globals.ofSection
  split
  next => exact hj
  next e _ =>
    intro id message hmem
    rw [problems_add, List.mem_append] at hmem
    rcases hmem with hbefore | hnew
    · exact hj id message hbefore
    · cases List.mem_singleton.mp hnew

/-- The cameras tell nothing of the graph. -/
theorem Spares.cameras (hj : j.Spares .graph) (entries : Json.Members) :
    (CameraSet.ofSection entries j).2.Spares .graph :=
  (hj.foldl CameraSet.telling (by decide) entries _).congr (CameraSet.ofSection_notes entries j).2

/-- The textures tell nothing of the graph. -/
theorem Spares.textures (hj : j.Spares .graph) (entries : Json.Members) (options : LoadOptions) :
    (LoadedScene.readTextures entries options j).2.Spares .graph :=
  (hj.foldl (TextureTable.telling _) (by decide) entries _).congr
    (LoadedScene.readTextures_notes entries options j).2

/-- The materials tell nothing of the graph. -/
theorem Spares.materials (hj : j.Spares .graph) (entries : Json.Members)
    (textures : TextureTable) : (MaterialTable.ofSection entries textures j).2.Spares .graph :=
  (hj.foldl (MaterialTable.telling textures) (by decide) entries _).congr
    (MaterialTable.ofSection_notes entries textures j).2

end Journal

/-- A load tells of its graph last.  Nothing it tells before is of a record. -/
theorem LoadedScene.reports_ofSections (d : Document) (name : String) (options : LoadOptions) :
    ∃ (before : Journal) (blocks : List (List Diagnostic)), before.Spares .graph ∧
      List.Forall₂ d.graph.Reports (Reference.firstIds
        (NodeDictionary.taken d.graph [.root d.graph.rootId] .empty)) blocks ∧
      (ofSections d name options).journal.problems = before.problems ++ blocks.flatten := by
  have hempty : Journal.empty.Spares .graph := fun _ _ => List.not_mem_nil
  have hbefore := (((hempty.globals d.globals).cameras d.cameras).textures d.textures
    options).materials d.materials (readTextures d.textures options
      (CameraSet.ofSection d.cameras (Globals.ofSection d.globals .empty).2).2).1
  obtain ⟨blocks, hblocks, hproblems⟩ :=
    (NodeDictionary.told_ofRecords hbefore d.graph d.graph.rootId).exists_reports
  exact ⟨_, blocks, hbefore, hblocks, hproblems⟩

end Scenery
