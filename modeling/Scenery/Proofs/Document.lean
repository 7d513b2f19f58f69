import Mathlib.Tactic
import Scenery.Load

/-!
# Which documents can be loaded

Whether a document is refused, and why, depends on the kinds of its sections, on the id of
the root and on whether that id has a record.  What stands in an entry or in a record makes
no difference to that.

`Document.Loadable` says what a document must be.  `Document.Fault` says for each error when
there is a reason for it, on its own and without a word about the others.  Several may have a
reason at once, and then the one that comes first in the order of `LoadError.rank` is
reported (`Document.FirstFault`).  `LoadedScene.ofValue_outcome` is both halves: a value that
is loadable has sections and a record of the root, and any other is refused with the first of
its faults.  A scene is made of the sections then, unless the program stops in the middle.

The cases that carry the content are those of a wrapper, which is taken off once and only if
it holds an object (`Document.Sections`), and of a root that is called like the key that names
it, which is not among the records (`Json.lookup_drop_self`).
-/

namespace Scenery

namespace Json

/-! ## Members left out -/

/-- A key that is left out is not found. -/
theorem lookup_drop_self (key : String) (members : Members) :
    (drop key members).lookup key = none := by
  rw [List.lookup_eq_none_iff]
  intro member hmember
  have hkept : member.1 ≠ key := by simpa using (List.mem_filter.mp hmember).2
  exact bne_iff_ne.mpr hkept.symm

/-- Leaving out one key leaves the others as they were. -/
theorem lookup_drop_of_ne {key other : String} (h : other ≠ key) (members : Members) :
    (drop key members).lookup other = members.lookup other := by
  unfold drop
  induction members with
  | nil => rfl
  | cons member rest ih =>
      obtain ⟨k, v⟩ := member
      by_cases hk : k = key
      · have hne : (other == k) = false := beq_false_of_ne (hk ▸ h)
        simp [hk, List.lookup_cons, ih, hk ▸ hne]
      · simp [hk, List.lookup_cons, ih]

end Json

theorem bind_eq_ok_iff {ε β γ : Type} {x : Except ε β} {f : β → Except ε γ} {c : γ} :
    (x >>= f) = .ok c ↔ ∃ b, x = .ok b ∧ f b = .ok c := by
  cases x with
  | error e => exact iff_of_false nofun nofun
  | ok b => exact ⟨fun h => ⟨b, rfl, h⟩, fun ⟨_, hb, h⟩ => Except.ok.inj hb ▸ h⟩

/-- The order in which errors of a document are looked for. -/
def LoadError.rank : LoadError → Nat
  | .file _ | .json _ | .notAnObject .document => 0
  | .missingPart _ | .notAnObject .graph => 1
  | .missingRootId => 2
  | .notAnObject .globals => 3
  | .notAnObject .cameras => 4
  | .notAnObject .textures => 5
  | .notAnObject .materials => 6
  | .rootNotFound _ => 7

namespace Document

/-! ## What a document must be -/

/-- The sections of a document are the members of an object, or of the object in a wrapper. -/
inductive Sections : Json → Json.Members → Prop where
  /-- A wrapper has one key and holds an object. -/
  | wrapped (inner : Json.Members) : Sections (.object [("yasf", .object inner)]) inner
  /-- Any other object is no wrapper. -/
  | bare {root : Json.Members} (h : ∀ inner, root ≠ [("yasf", .object inner)]) :
      Sections (.object root) root

/-- The sections that may be missing, in the order they are looked at. -/
def optionalParts : List Part := [.globals, .cameras, .textures, .materials]

/-- What may stand for a section that may be missing: nothing, null or an object. -/
inductive Optional : Option Json → Prop where
  | missing : Optional none
  | null : Optional (some .null)
  | object (members : Json.Members) : Optional (some (.object members))

/-- A document that can be loaded. -/
inductive Loadable (v : Json) : Prop where
  /-- The graph names a root that has a record, of whatever kind.  The key that names the
  root is no record.  Each of the other sections is an object unless it is missing. -/
  | intro {root graph : Json.Members} {id : String} {record : Json} (sections : Sections v root)
      (isGraph : root.lookup "graph" = some (.object graph))
      (isRoot : graph.lookup "rootid" = some (.string id)) (other : id ≠ "rootid")
      (isRecord : graph.lookup id = some record)
      (optional : ∀ part ∈ optionalParts, Optional (root.lookup part.name))

/-- What is wrong with the sections of a document. -/
inductive SectionFault (root : Json.Members) : LoadError → Prop where
  | noGraph (h : root.lookup "graph" = none) : SectionFault root (.missingPart .graph)
  | graphKind {value : Json} (h : root.lookup "graph" = some value)
      (hkind : ∀ members, value ≠ .object members) : SectionFault root (.notAnObject .graph)
  | noRootId {graph : Json.Members} (h : root.lookup "graph" = some (.object graph))
      (hroot : ∀ id, graph.lookup "rootid" ≠ some (.string id)) : SectionFault root .missingRootId
  | partKind {part : Part} (hpart : part ∈ optionalParts) (h : ¬ Optional (root.lookup part.name)) :
      SectionFault root (.notAnObject part)
  | noRecord {graph : Json.Members} {id : String} (h : root.lookup "graph" = some (.object graph))
      (hroot : graph.lookup "rootid" = some (.string id))
      (hrecord : id = "rootid" ∨ graph.lookup id = none) : SectionFault root (.rootNotFound id)

/-- What is wrong with a document. -/
inductive Fault (v : Json) : LoadError → Prop where
  | kind (h : ∀ members, v ≠ .object members) : Fault v (.notAnObject .document)
  | sections {root : Json.Members} {e : LoadError} (h : Sections v root)
      (fault : SectionFault root e) : Fault v e

/-- What is wrong with a document first. -/
def FirstFault (v : Json) (e : LoadError) : Prop :=
  Fault v e ∧ ∀ other, Fault v other → e.rank ≤ other.rank

/-! ## Wrappers -/

theorem sections_unwrapped (root : Json.Members) : Sections (.object root) (unwrapped root) := by
  unfold unwrapped
  split
  next inner => exact .wrapped inner
  next h => exact .bare h

theorem Sections.eq_unwrapped {root members : Json.Members} (h : Sections (.object root) members) :
    members = unwrapped root := by
  cases h with
  | wrapped => rfl
  | bare h =>
      unfold unwrapped
      split
      next inner => exact absurd rfl (h inner)
      next => rfl

/-! ## Faults -/

variable {v : Json} {root graph : Json.Members} {e : LoadError}

/-- The faults of an object are those of its sections. -/
theorem fault_object_iff : Fault (.object root) e ↔ SectionFault (unwrapped root) e := by
  constructor
  · intro h
    cases h with
    | kind h => exact absurd rfl (h root)
    | sections hsections fault =>
        rw [← hsections.eq_unwrapped]
        exact fault
  · exact .sections (sections_unwrapped root)

theorem loadable_object_iff : Loadable (.object root) ↔ ∃ graph id record,
    (unwrapped root).lookup "graph" = some (.object graph) ∧
      graph.lookup "rootid" = some (.string id) ∧ id ≠ "rootid" ∧ graph.lookup id = some record ∧
      ∀ part ∈ optionalParts, Optional ((unwrapped root).lookup part.name) := by
  constructor
  · rintro ⟨sections, isGraph, isRoot, other, isRecord, optional⟩
    obtain rfl := sections.eq_unwrapped
    exact ⟨_, _, _, isGraph, isRoot, other, isRecord, optional⟩
  · rintro ⟨graph, id, record, isGraph, isRoot, other, isRecord, optional⟩
    exact .intro (sections_unwrapped root) isGraph isRoot other isRecord optional

/-- The faults of sections whose graph names a root. -/
theorem sectionFault_iff {id : String} (hgraph : root.lookup "graph" = some (.object graph))
    (hroot : graph.lookup "rootid" = some (.string id)) :
    SectionFault root e ↔
      (∃ part ∈ optionalParts, ¬ Optional (root.lookup part.name) ∧ e = .notAnObject part) ∨
        (id = "rootid" ∨ graph.lookup id = none) ∧ e = .rootNotFound id := by
  constructor
  · intro h
    cases h with
    | noGraph h => rw [hgraph] at h; cases h
    | graphKind h hkind =>
        rw [hgraph] at h
        cases h
        exact absurd rfl (hkind graph)
    | noRootId h hnone =>
        rw [hgraph] at h
        cases h
        exact absurd hroot (hnone id)
    | partKind hpart h => exact Or.inl ⟨_, hpart, h, rfl⟩
    | noRecord h hid hrecord =>
        rw [hgraph] at h
        cases h
        rw [hroot] at hid
        cases hid
        exact Or.inr ⟨hrecord, rfl⟩
  · rintro (⟨part, hpart, h, rfl⟩ | ⟨hrecord, rfl⟩)
    · exact .partKind hpart h
    · exact .noRecord hgraph hroot hrecord

theorem rank_optionalPart {part : Part} (h : part ∈ optionalParts) :
    2 < (LoadError.notAnObject part).rank ∧ (LoadError.notAnObject part).rank < 7 := by
  revert part
  decide

theorem eq_of_rank_optionalPart {part other : Part} (h : part ∈ optionalParts)
    (h' : other ∈ optionalParts)
    (hrank : (LoadError.notAnObject part).rank = (LoadError.notAnObject other).rank) :
    part = other := by
  have hall : ∀ p ∈ optionalParts, ∀ q ∈ optionalParts,
      (LoadError.notAnObject p).rank = (LoadError.notAnObject q).rank → p = q := by decide
  exact hall part h other h' hrank

/-- Of the faults of sections no two have one rank. -/
theorem SectionFault.eq_of_rank {e' : LoadError} (h : SectionFault root e)
    (h' : SectionFault root e') (hrank : e.rank = e'.rank) : e = e' := by
  -- Faults of the graph and of the other sections are told apart by their ranks.
  have apart : ∀ {part : Part} {e : LoadError}, part ∈ optionalParts →
      (LoadError.notAnObject part).rank = e.rank → 2 < e.rank ∧ e.rank < 7 :=
    fun hpart hrank => hrank ▸ rank_optionalPart hpart
  cases h with
  | noGraph h =>
      cases h' with
      | noGraph => rfl
      | graphKind h' => rw [h] at h'; cases h'
      | noRootId h' => rw [h] at h'; cases h'
      | partKind hpart => exact absurd (apart hpart hrank.symm) (by decide)
      | noRecord h' => rw [h] at h'; cases h'
  | graphKind h hkind =>
      cases h' with
      | noGraph h' => rw [h] at h'; cases h'
      | graphKind => rfl
      | noRootId => cases hrank
      | partKind hpart => exact absurd (apart hpart hrank.symm) (by decide)
      | noRecord => cases hrank
  | noRootId =>
      cases h' with
      | noGraph | graphKind => cases hrank
      | noRootId => rfl
      | partKind hpart => exact absurd (apart hpart hrank.symm) (by decide)
      | noRecord => cases hrank
  | partKind hpart =>
      cases h' with
      | noGraph | graphKind | noRootId => exact absurd (apart hpart hrank) (by decide)
      | partKind hpart' => rw [eq_of_rank_optionalPart hpart hpart' hrank]
      | noRecord => exact absurd (apart hpart hrank).2 (Nat.lt_irrefl 7)
  | noRecord h hroot =>
      cases h' with
      | noGraph | graphKind | noRootId => cases hrank
      | partKind hpart => exact absurd (apart hpart hrank.symm).2 (Nat.lt_irrefl 7)
      | noRecord h' hroot' =>
          rw [h] at h'
          cases h'
          rw [hroot] at hroot'
          cases hroot'
          rfl

/-- There is one first fault at most. -/
theorem FirstFault.unique {e' : LoadError} (h : FirstFault v e) (h' : FirstFault v e') :
    e = e' := by
  have hrank : e.rank = e'.rank := Nat.le_antisymm (h.2 _ h'.1) (h'.2 _ h.1)
  cases v with
  | object root =>
      exact (fault_object_iff.mp h.1).eq_of_rank (fault_object_iff.mp h'.1) hrank
  | null | bool | number | string | array =>
      cases h.1 with
      | kind => cases h'.1 with
        | kind => rfl
        | sections h' => cases h'
      | sections h => cases h

/-- A document that can be loaded has no fault. -/
theorem Loadable.not_fault (h : Loadable v) : ¬ Fault v e := by
  cases v with
  | object root =>
      obtain ⟨graph, id, record, isGraph, isRoot, other, isRecord, optional⟩ :=
        loadable_object_iff.mp h
      rw [fault_object_iff, sectionFault_iff isGraph isRoot]
      rintro (⟨part, hpart, hkind, -⟩ | ⟨hrecord, -⟩)
      · exact hkind (optional part hpart)
      · rcases hrecord with rfl | hrecord
        · exact other rfl
        · rw [isRecord] at hrecord
          cases hrecord
  | null | bool | number | string | array =>
      obtain ⟨sections⟩ := h
      cases sections

/-! ## The outcome -/

theorem sectionOf_of_optional {part : Part} (h : Optional (root.lookup part.name)) :
    ∃ members, sectionOf root part = .ok members := by
  unfold sectionOf
  generalize root.lookup part.name = found at h
  cases h with
  | missing | null => exact ⟨[], rfl⟩
  | object members => exact ⟨members, rfl⟩

theorem sectionOf_of_not_optional {part : Part} (h : ¬ Optional (root.lookup part.name)) :
    sectionOf root part = .error (.notAnObject part) := by
  unfold sectionOf
  split
  next members heq => exact absurd (heq ▸ .object members) h
  next heq => exact absurd (heq ▸ .null) h
  next heq => exact absurd (heq ▸ .missing) h
  next => rfl

/-- Every fault of sections comes after the one of the document. -/
theorem SectionFault.rank_pos (h : SectionFault root e) : 0 < e.rank := by
  cases h with
  | partKind hpart => exact Nat.lt_of_le_of_lt (Nat.zero_le 2) (rank_optionalPart hpart).1
  | noGraph | graphKind | noRootId | noRecord => simp [LoadError.rank]

/-- Without a root id there is no fault that comes before. -/
theorem SectionFault.rank_of_noRootId (hgraph : root.lookup "graph" = some (.object graph))
    (h : SectionFault root e) : 2 ≤ e.rank := by
  cases h with
  | noGraph h => rw [hgraph] at h; cases h
  | graphKind h hkind => rw [hgraph] at h; cases h; exact absurd rfl (hkind graph)
  | partKind hpart => exact (rank_optionalPart hpart).1.le
  | noRootId | noRecord => simp [LoadError.rank]

/-- A section of the wrong kind is the first fault if those before it are as they may be. -/
theorem rank_le_of_partKind {id : String} {part : Part}
    (hgraph : root.lookup "graph" = some (.object graph))
    (hroot : graph.lookup "rootid" = some (.string id)) (hpart : part ∈ optionalParts)
    (hbefore : ∀ p ∈ optionalParts,
      (LoadError.notAnObject p).rank < (LoadError.notAnObject part).rank →
        Optional (root.lookup p.name))
    (h : SectionFault root e) : (LoadError.notAnObject part).rank ≤ e.rank := by
  rcases (sectionFault_iff hgraph hroot).mp h with ⟨p, hp, hkind, rfl⟩ | ⟨-, rfl⟩
  · exact Nat.le_of_not_lt fun hlt => hkind (hbefore p hp hlt)
  · exact (rank_optionalPart hpart).2.le

theorem ofSection_eq_ok_iff {g : Records} :
    Records.ofSection graph = .ok g ↔ graph.lookup "rootid" = some (.string g.rootId) ∧
      g.entries = Json.drop "rootid" graph := by
  obtain ⟨id, entries⟩ := g
  unfold Records.ofSection Records.rootKey
  split
  next found heq =>
    rw [heq]
    constructor
    · intro h
      cases h
      exact ⟨rfl, rfl⟩
    · rintro ⟨h, rfl⟩
      cases h
      rfl
  next hnone => exact iff_of_false nofun fun h => hnone id h.1

theorem ofSection_of_noRoot (h : ∀ id, graph.lookup "rootid" ≠ some (.string id)) :
    Records.ofSection graph = .error .missingRootId := by
  unfold Records.ofSection
  split
  next id heq => exact absurd heq (h id)
  next => rfl

theorem ofSection_of_root {id : String} (h : graph.lookup "rootid" = some (.string id)) :
    Records.ofSection graph = .ok ⟨id, Json.drop "rootid" graph⟩ :=
  ofSection_eq_ok_iff.mpr ⟨h, rfl⟩

/-- Sections make a document if the graph has a root id and each of the others can be read. -/
theorem ofSections_eq_ok_iff {d : Document} :
    ofSections root = .ok d ↔
      (∃ graph, root.lookup Part.graph.name = some (.object graph) ∧
        Records.ofSection graph = .ok d.graph) ∧
      sectionOf root .globals = .ok d.globals ∧ sectionOf root .cameras = .ok d.cameras ∧
        sectionOf root .textures = .ok d.textures ∧
          sectionOf root .materials = .ok d.materials := by
  have refused : ∀ {e : LoadError} {f : Records → Except LoadError Document},
      (.error e >>= f) ≠ .ok d := nofun
  unfold ofSections
  split
  next members heq =>
    simp only [bind_eq_ok_iff, heq, Option.some.injEq, Json.object.injEq, exists_eq_left']
    constructor
    · rintro ⟨g, hg, a, ha, b, hb, c, hc, e, he, h⟩
      cases h
      exact ⟨hg, ha, hb, hc, he⟩
    · rintro ⟨hg, ha, hb, hc, he⟩
      exact ⟨_, hg, _, ha, _, hb, _, hc, _, he, rfl⟩
  next hkind heq =>
    refine iff_of_false refused ?_
    rintro ⟨⟨graph, hgraph, -⟩, -⟩
    rw [heq] at hgraph
    exact hkind graph (Option.some.inj hgraph)
  next heq =>
    refine iff_of_false refused ?_
    rintro ⟨⟨graph, hgraph, -⟩, -⟩
    rw [heq] at hgraph
    cases hgraph

/-- What becomes of sections: a document with a root and sections of the right kinds, or the
first of their faults. -/
def Outcome (root : Json.Members) : Prop :=
  (∃ d graph id, ofSections root = .ok d ∧ d.graph = ⟨id, Json.drop "rootid" graph⟩ ∧
    root.lookup "graph" = some (.object graph) ∧ graph.lookup "rootid" = some (.string id) ∧
    ∀ part ∈ optionalParts, Optional (root.lookup part.name)) ∨
  ∃ e, ofSections root = .error e ∧ SectionFault root e ∧
    ∀ other, SectionFault root other → e.rank ≤ other.rank

theorem ofSections_outcome_of_root {id : String}
    (hgraph : root.lookup Part.graph.name = some (.object graph))
    (hroot : graph.lookup "rootid" = some (.string id)) : Outcome root := by
  have hsections : ofSections root = (do
      let globals ← sectionOf root .globals
      let cameras ← sectionOf root .cameras
      let textures ← sectionOf root .textures
      let materials ← sectionOf root .materials
      return ⟨globals, cameras, textures, materials, ⟨id, Json.drop "rootid" graph⟩⟩) := by
    simp only [ofSections, hgraph, ofSection_of_root hroot, bind, Except.bind]
  -- A section that is not as it may be is the first fault, since those before it are.
  have hfirst : ∀ part ∈ optionalParts, ¬ Optional (root.lookup part.name) →
      (∀ p ∈ optionalParts, (LoadError.notAnObject p).rank < (LoadError.notAnObject part).rank →
        Optional (root.lookup p.name)) →
      ofSections root = .error (.notAnObject part) → Outcome root :=
    fun part hpart h hbefore herror => Or.inr ⟨_, herror, .partKind hpart h,
      fun _ => rank_le_of_partKind hgraph hroot hpart hbefore⟩
  by_cases hglobals : Optional (root.lookup Part.globals.name)
  case neg =>
    refine hfirst .globals (by decide) hglobals (by simp [optionalParts, LoadError.rank]) ?_
    simp [hsections, sectionOf_of_not_optional hglobals, bind, Except.bind]
  obtain ⟨globals, hglobals'⟩ := sectionOf_of_optional hglobals
  by_cases hcameras : Optional (root.lookup Part.cameras.name)
  case neg =>
    refine hfirst .cameras (by decide) hcameras
      (by simp [optionalParts, LoadError.rank, hglobals]) ?_
    simp [hsections, hglobals', sectionOf_of_not_optional hcameras, bind, Except.bind]
  obtain ⟨cameras, hcameras'⟩ := sectionOf_of_optional hcameras
  by_cases htextures : Optional (root.lookup Part.textures.name)
  case neg =>
    refine hfirst .textures (by decide) htextures
      (by simp [optionalParts, LoadError.rank, hglobals, hcameras]) ?_
    simp [hsections, hglobals', hcameras', sectionOf_of_not_optional htextures, bind, Except.bind]
  obtain ⟨textures, htextures'⟩ := sectionOf_of_optional htextures
  by_cases hmaterials : Optional (root.lookup Part.materials.name)
  case neg =>
    refine hfirst .materials (by decide) hmaterials
      (by simp [optionalParts, LoadError.rank, hglobals, hcameras, htextures]) ?_
    simp [hsections, hglobals', hcameras', htextures', sectionOf_of_not_optional hmaterials, bind,
      Except.bind]
  obtain ⟨materials, hmaterials'⟩ := sectionOf_of_optional hmaterials
  refine Or.inl ⟨⟨globals, cameras, textures, materials, ⟨id, Json.drop "rootid" graph⟩⟩, graph,
    id, ?_, rfl, hgraph, hroot, ?_⟩
  · exact ofSections_eq_ok_iff.mpr ⟨⟨graph, hgraph, ofSection_of_root hroot⟩, hglobals', hcameras',
      htextures', hmaterials'⟩
  · simp [optionalParts, hglobals, hcameras, htextures, hmaterials]

/-- Sections are taken apart if the graph names a root and each of the others is an object
or missing.  Otherwise the first thing that is wrong is told. -/
theorem ofSections_outcome (root : Json.Members) : Outcome root := by
  cases hgraph : root.lookup Part.graph.name with
  | none =>
      refine Or.inr ⟨.missingPart .graph, ?_, .noGraph hgraph, fun _ h => h.rank_pos⟩
      simp [ofSections, hgraph, bind, Except.bind]
  | some value =>
      by_cases hkind : ∃ graph, value = .object graph
      · obtain ⟨graph, rfl⟩ := hkind
        by_cases hroot : ∃ id, graph.lookup "rootid" = some (.string id)
        · obtain ⟨id, hroot⟩ := hroot
          exact ofSections_outcome_of_root hgraph hroot
        · have hnone : ∀ id, graph.lookup "rootid" ≠ some (.string id) := not_exists.mp hroot
          refine Or.inr ⟨.missingRootId, ?_, .noRootId hgraph hnone,
            fun _ h => h.rank_of_noRootId hgraph⟩
          simp [ofSections, hgraph, bind, Except.bind, ofSection_of_noRoot hnone]
      · refine Or.inr ⟨.notAnObject .graph, ?_, .graphKind hgraph (not_exists.mp hkind),
          fun _ h => h.rank_pos⟩
        cases value with
        | object members => exact absurd ⟨members, rfl⟩ hkind
        | null | bool | number | string | array => simp [ofSections, hgraph, bind, Except.bind]

end Document

namespace LoadedScene

open Document

variable {v : Json} {text name : String} {options : LoadOptions}

/-- A text that reads as a value is loaded as that value is. -/
theorem ofText_of_parse (h : Json.parse text = .ok v) :
    ofText text name options = ofRead (ofValue v) name options := by
  simp [ofText, Document.parse, h]

/-- A scene that is loaded is what the sections come to, together with what is shown. -/
theorem ofDocument_eq_ok_iff {d : Document} {s : LoadedScene} :
    ofDocument d name options = some (.ok s) ↔ (d.graph.record? d.graph.rootId).isSome = true ∧
      (ofSections d name options).rebuild? = some s := by
  unfold ofDocument
  split
  next hrecord => simp [hrecord]
  next hrecord => simp [hrecord]

/-- The root of a graph section has no record if it is called like the key that names it. -/
theorem record?_root_eq_none_iff (graph : Json.Members) (id : String) :
    (⟨id, Json.drop "rootid" graph⟩ : Records).record? id = none ↔
      id = "rootid" ∨ graph.lookup id = none := by
  unfold Records.record?
  by_cases hid : id = "rootid"
  · simp [hid, Json.lookup_drop_self]
  · simp [hid, Json.lookup_drop_of_ne hid]

/-- A value that is loadable has sections and a record of the root.  Any other is refused for the
first of its faults. -/
theorem ofValue_outcome (v : Json) (name : String) (options : LoadOptions) :
    (Loadable v ∧ ∃ d, ofValue v = .ok d ∧ (d.graph.record? d.graph.rootId).isSome = true) ∨
      ∃ e, ofRead (ofValue v) name options = some (.error e) ∧ FirstFault v e := by
  cases v with
  | object root =>
      rcases ofSections_outcome (unwrapped root) with
        ⟨d, graph, id, hd, hrecords, hgraph, hroot, hoptional⟩ | ⟨e, he, hfault, hrank⟩
      · have hvalue : ofValue (.object root) = .ok d := hd
        have hdocument : ofRead (ofValue (.object root)) name options =
            ofDocument d name options := by rw [hvalue]; rfl
        cases hrecord : (⟨id, Json.drop "rootid" graph⟩ : Records).record? id with
        | some record =>
            refine Or.inl ⟨loadable_object_iff.mpr ⟨graph, id, ?_⟩, d, hvalue, ?_⟩
            · have hsome := mt (record?_root_eq_none_iff graph id).mpr (by simp [hrecord])
              obtain ⟨hother, hlookup⟩ := not_or.mp hsome
              obtain ⟨value, hvalue⟩ := Option.ne_none_iff_exists'.mp hlookup
              exact ⟨value, hgraph, hroot, hother, hvalue, hoptional⟩
            · rw [hrecords, hrecord]
              rfl
        | none =>
            have hfault : SectionFault (unwrapped root) (.rootNotFound id) :=
              .noRecord hgraph hroot ((record?_root_eq_none_iff graph id).mp hrecord)
            refine Or.inr ⟨.rootNotFound id, ?_, fault_object_iff.mpr hfault, fun other h => ?_⟩
            · rw [hdocument, ofDocument, hrecords, hrecord]
              rfl
            -- Every other fault is one of an optional section, or the same.
            · rcases (sectionFault_iff hgraph hroot).mp (fault_object_iff.mp h) with
                ⟨part, hpart, hkind, rfl⟩ | ⟨-, rfl⟩
              · exact absurd (hoptional part hpart) hkind
              · exact Nat.le_refl _
      · have hvalue : ofValue (.object root) = .error e := he
        exact Or.inr ⟨e, by rw [hvalue]; rfl, fault_object_iff.mpr hfault,
          fun other h => hrank other (fault_object_iff.mp h)⟩
  | null | bool | number | string | array =>
      refine Or.inr ⟨.notAnObject .document, rfl, .kind (by simp), fun other _ => Nat.zero_le _⟩

end LoadedScene

end Scenery
