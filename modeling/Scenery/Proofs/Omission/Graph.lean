import Scenery.Proofs.Omission.Sections
import Scenery.Proofs.Node.BreadthFirst

/-!
# Graphs without a malformed record

A walk that comes to a record that does not convert tells it and goes on, and one that comes
to an id without a record goes on too.  So two walks, one over a graph and one over the graph
without that record, take the same turns and build the same nodes
(`NodeDictionary.walk_omits`).

The first walk tells the problem when it first takes a reference to the record, and never
again (`NodeDictionary.kept_count`).  The references it takes are those of `Progress`, and
they go to the ids that are reached (`NodeDictionary.mem_problems_ofRecords_iff`).

There is one way in which a record might leave more or less than its own problem: another
record could tell the same.  What is told of an entry of the children of a node is told under
a name made of two keys, and that name may well be the id of a record.  But the messages
differ from the first words on (`NodeRecord.not_mem_told`).
-/

namespace Scenery

/-! ## How messages begin -/

/-- A message begins with some words. -/
def Opens (words message : String) : Prop := words.toList <+: message.toList

theorem opens_append (words rest : String) : Opens words (words ++ rest) := by
  unfold Opens
  rw [String.toList_append]
  exact List.prefix_append ..

theorem Opens.append {words message : String} (h : Opens words message) (rest : String) :
    Opens words (message ++ rest) := by
  unfold Opens
  rw [String.toList_append]
  exact h.trans (List.prefix_append ..)

/-- How the message of a value that does not convert begins. -/
def decodeOpenings : List String :=
  ["invalid type: ", "invalid value: ", "missing field `", "invalid length ", "unknown variant `"]

/-- What is wrong with a value is said in one of a few ways. -/
theorem Json.DecodeError.opens (e : Json.DecodeError) :
    ∃ words ∈ decodeOpenings, Opens words e.message := by
  cases e with
  | wrongKind found wanted =>
      exact ⟨"invalid type: ", by decide, ((opens_append ..).append _).append _⟩
  | outOfRange found wanted =>
      exact ⟨"invalid value: ", by decide, ((opens_append ..).append _).append _⟩
  | missing field => exact ⟨"missing field `", by decide, (opens_append ..).append _⟩
  | wrongLength found wanted =>
      exact ⟨"invalid length ", by decide, ((opens_append ..).append _).append _⟩
  | unknownTag found known =>
      exact ⟨"unknown variant `", by decide, ((opens_append ..).append _).append _⟩

/-- How the message of a child of a node that does not convert begins. -/
def childOpenings : List String :=
  ["expected a list of node ids", "child id ", "declaration has no 'type'"] ++
    Tag.all.map fun tag => "invalid " ++ tag.name ++ ": "

/-- No message begins in both ways. -/
theorem not_opens_both {words others message : String} (hwords : words ∈ decodeOpenings)
    (hothers : others ∈ childOpenings) (h : Opens words message) : ¬ Opens others message := by
  intro h'
  have hnone : ∀ a ∈ decodeOpenings, ∀ b ∈ childOpenings,
      ¬ (a.toList <+: b.toList) ∧ ¬ (b.toList <+: a.toList) := by decide
  obtain ⟨hab, hba⟩ := hnone words hwords others hothers
  exact (List.prefix_or_prefix_of_prefix h h').elim hab hba

/-! ## What a record tells -/

namespace NodeRecord

/-- What is told of an entry of the children of a node. -/
def toldOfChild (id : String) (entry : String × Json) : List Diagnostic :=
  if entry.1 = idsKey then idProblems id entry.2
  else
    match Geometry.ofDeclaration entry.2 with
    | .ok _ => []
    | .error e => [declarationProblem id entry.1 e]

/-- What is told of a record that converts. -/
def told (r : NodeRecord) (id : String) : List Diagnostic :=
  r.unknownTags.map (.unknownTransform id) ++ r.children.flatMap (toldOfChild id)

/-- A child entry adds its own problems to those of its node. -/
theorem problems_step (id : String) (p : Payload) (entry : String × Json) :
    (p.step id entry).journal.problems = p.journal.problems ++ toldOfChild id entry := by
  unfold Payload.step toldOfChild
  split
  next => exact Journal.problems_foldl_add ..
  next =>
    cases Geometry.ofDeclaration entry.2 with
    | error e => exact Journal.problems_add ..
    | ok g => cases p.geometry <;> simp

/-- Building a node adds the problems of its record. -/
theorem problems_build (r : NodeRecord) (ref : Reference) (j : Journal) :
    (r.build ref j).2.problems = j.problems ++ r.told ref.id := by
  have key : ∀ (entries : Json.Members) (p : Payload),
      (entries.foldl (Payload.step ref.id) p).journal.problems =
        p.journal.problems ++ entries.flatMap (toldOfChild ref.id) := by
    intro entries
    induction entries with
    | nil => simp
    | cons entry rest ih =>
        intro p
        rw [List.foldl_cons, ih, problems_step, List.flatMap_cons, List.append_assoc]
  unfold build payload told
  simp only
  rw [key, Journal.problems_foldl_add, List.append_assoc]

/-- What is told of a child entry begins in one of a few ways. -/
theorem opens_of_mem_toldOfChild {id other message : String} {part : Part} {entry : String × Json}
    (h : .malformed part other message ∈ toldOfChild id entry) :
    ∃ words ∈ childOpenings, Opens words message := by
  unfold toldOfChild at h
  split at h
  next =>
    unfold idProblems at h
    simp only at h
    split at h
    next =>
      cases List.mem_singleton.mp h
      exact ⟨"expected a list of node ids", by decide, List.prefix_rfl⟩
    next items _ =>
      obtain ⟨item, -, heq⟩ := List.mem_map.mp h
      cases heq
      exact ⟨"child id ", by decide, (opens_append ..).append _⟩
  next =>
    split at h
    next => cases h
    next e _ =>
      cases e with
      | missingTag =>
          cases List.mem_singleton.mp h
          exact ⟨"declaration has no 'type'", by decide, List.prefix_rfl⟩
      | unknownTag tag => cases List.mem_singleton.mp h
      | invalid tag cause =>
          cases List.mem_singleton.mp h
          refine ⟨"invalid " ++ tag.name ++ ": ", ?_, opens_append ..⟩
          cases tag <;> decide

/-- A record that converts never tells what one tells that does not, even where the name of
an entry of its children is the id of the other: the messages begin in different ways. -/
theorem not_mem_told (r : NodeRecord) (id other : String) (part : Part) (e : Json.DecodeError) :
    .malformed part other e.message ∉ r.told id := by
  unfold told
  rw [List.mem_append]
  rintro (h | h)
  · obtain ⟨tag, -, heq⟩ := List.mem_map.mp h
    cases heq
  · obtain ⟨entry, -, hentry⟩ := List.mem_flatMap.mp h
    obtain ⟨words, hwords, hopens⟩ := opens_of_mem_toldOfChild hentry
    obtain ⟨others, hothers, hopens'⟩ := e.opens
    exact not_opens_both hothers hwords hopens' hopens

end NodeRecord

/-! ## Walking a graph without a record -/

namespace Journal

variable {j k : Journal} {problem other : Diagnostic}

theorem Lacks.note (h : j.Lacks problem k) (m n : Note) : (j.note m).Lacks problem (k.note n) := by
  unfold Lacks
  rw [problems_note, problems_note, h]

theorem Lacks.addOnce (h : j.Lacks problem k) (hne : other ≠ problem) :
    (j.addOnce other).Lacks problem (k.addOnce other) := by
  have hmem : other ∈ k.problems ↔ other ∈ j.problems := by
    rw [h]
    simp [hne]
  unfold Lacks
  simp only [problems_addOnce, hmem]
  split
  next => exact h
  next =>
    have hkept : [other].filter (· != problem) = [other] :=
      filter_of_not_mem (by simpa using hne.symm)
    rw [h, List.filter_append, hkept]

/-- Where the first journal tells the problem the second takes a note. -/
theorem Lacks.addOnce_note (h : j.Lacks problem k) (n : Note) :
    (j.addOnce problem).Lacks problem (k.note n) := by
  unfold Lacks
  rw [problems_addOnce, problems_note, h]
  split
  next => rfl
  next => simp

/-- A problem added once is there once if it was not there before. -/
theorem count_addOnce (j : Journal) (other problem : Diagnostic) :
    (j.addOnce other).problems.count problem = j.problems.count problem ∨
      problem ∉ j.problems ∧ (j.addOnce other).problems.count problem = 1 := by
  rw [problems_addOnce]
  split
  next => exact Or.inl rfl
  next hnew =>
    rw [List.count_append]
    by_cases h : other = problem
    · subst h
      exact Or.inr ⟨hnew, by simp [List.count_eq_zero.mpr hnew]⟩
    · exact Or.inl (by simp [h])

/-- Two journals that differ by one problem still do when both are told the same, without that
problem. -/
theorem Lacks.tell {j' k' : Journal} {told : List Diagnostic} (h : j.Lacks problem k)
    (hj : j'.problems = j.problems ++ told) (hk : k'.problems = k.problems ++ told)
    (hnever : problem ∉ told) : j'.Lacks problem k' := by
  unfold Lacks
  rw [hj, hk, h, List.filter_append, filter_of_not_mem hnever]

end Journal

/-- The record of an id does not convert and so tells a problem. -/
def Records.Tells (g : Records) (id : String) (problem : Diagnostic) : Prop :=
  ∃ value e, g.record? id = some value ∧ NodeRecord.decode value = .error e ∧
    problem = .malformed .graph id e.message

/-- A graph is another without the records that tell a problem. -/
structure Records.Omits (problem : Diagnostic) (g g' : Records) : Prop where
  omitted : ∀ id, g.Tells id problem → g'.record? id = none
  kept : ∀ id, ¬ g.Tells id problem → g'.record? id = g.record? id

namespace Records

variable {g : Records} {id : String} {problem : Diagnostic}

/-- An id without a record tells nothing. -/
theorem not_tells_of_noRecord (h : g.record? id = none) : ¬ g.Tells id problem := by
  rintro ⟨value, e, hvalue, -⟩
  rw [h] at hvalue
  cases hvalue

/-- A record that converts does not tell that a record is malformed. -/
theorem not_tells_of_ok {value : Json} {r : NodeRecord} (h : g.record? id = some value)
    (hd : NodeRecord.decode value = .ok r) : ¬ g.Tells id problem := by
  rintro ⟨other, e, hother, he, -⟩
  obtain rfl : value = other := Option.some.inj (h.symm.trans hother)
  rw [hd] at he
  cases he

/-- A record that does not convert tells that it is malformed, and nothing else. -/
theorem tells_iff_of_error {value : Json} {e : Json.DecodeError} (h : g.record? id = some value)
    (he : NodeRecord.decode value = .error e) :
    g.Tells id problem ↔ problem = .malformed .graph id e.message := by
  constructor
  · rintro ⟨other, e', hother, he', rfl⟩
    obtain rfl : value = other := Option.some.inj (h.symm.trans hother)
    rw [he] at he'
    cases he'
    rfl
  · rintro rfl
    exact ⟨value, e, h, he, rfl⟩

end Records

namespace NodeDictionary

variable {g g' : Records} {root : String} {problem : Diagnostic} {ref : Reference}
  {rest done queue : List Reference} {d : NodeDictionary Float32} {j k : Journal}

/-- Walking a graph without a record that tells a problem takes the same turns.  Only where
the first walk tells the problem the second misses a record. -/
theorem walk_omits (h : g.Omits problem g')
    (hnever : ∀ (r : NodeRecord) id, problem ∉ r.told id) (hjk : j.Lacks problem k) :
    (walk g' queue d k).1 = (walk g queue d j).1 ∧
      (walk g queue d j).2.Lacks problem (walk g' queue d k).2 := by
  induction queue, d, j using walk.induct g generalizing k with
  | case1 d j =>
      rw [walk, walk]
      exact ⟨rfl, hjk⟩
  | case2 d j ref rest hbuilt ih =>
      rw [walk_contains hbuilt, walk_contains hbuilt]
      exact ih (hjk.note _ _)
  | case3 d j ref rest hnew hrecord ih =>
      have hnew' := Bool.eq_false_iff.mpr hnew
      have hrecord' := (h.kept _ (Records.not_tells_of_noRecord hrecord)).trans hrecord
      rw [walk_noRecord hnew' hrecord, walk_noRecord hnew' hrecord']
      exact ih (hjk.note _ _)
  | case4 d j ref rest hnew value hrecord e hdecode ih =>
      have hnew' := Bool.eq_false_iff.mpr hnew
      rw [walk_malformed hnew' hrecord hdecode]
      have htells : g.Tells ref.id problem ↔ problem = .malformed .graph ref.id e.message :=
        Records.tells_iff_of_error hrecord hdecode
      by_cases hproblem : problem = .malformed .graph ref.id e.message
      · rw [walk_noRecord hnew' (h.omitted _ (htells.mpr hproblem))]
        subst hproblem
        exact ih (hjk.addOnce_note _)
      · rw [walk_malformed hnew' ((h.kept _ (mt htells.mp hproblem)).trans hrecord) hdecode]
        exact ih (hjk.addOnce (Ne.symm hproblem))
  | case5 d j ref rest hnew value hrecord r hdecode built =>
      rename_i ih
      have hnew' := Bool.eq_false_iff.mpr hnew
      have hrecord' := (h.kept _ (Records.not_tells_of_ok hrecord hdecode)).trans hrecord
      rw [walk_build hnew' hrecord hdecode, walk_build hnew' hrecord' hdecode]
      simp only [built, NodeRecord.build_fst] at ih
      exact ih (hjk.tell (NodeRecord.problems_build ..) (NodeRecord.problems_build ..) (hnever r _))

/-- A problem that building a record never tells is told once by a walk, or not at all. -/
theorem kept_count (start : Journal) (hnever : ∀ (r : NodeRecord) id, problem ∉ r.told id) :
    KeptByTurns g fun _ _ _ j =>
      j.problems.count problem = start.problems.count problem ∨
        problem ∉ start.problems ∧ j.problems.count problem = 1 where
  again h _ := by
    rw [Journal.problems_note]
    exact h
  noRecord h _ _ := by
    rw [Journal.problems_note]
    exact h
  malformed {_ _ _ _ j _ _} h _ _ _ := by
    rcases j.count_addOnce _ problem with hsame | ⟨hnot, hone⟩
    · rw [hsame]
      exact h
    · rw [List.count_eq_zero.mpr hnot] at h
      rcases h with hzero | ⟨-, hzero⟩
      · exact Or.inr ⟨List.count_eq_zero.mp hzero.symm, hone⟩
      · cases hzero
  build {_ _ ref _ _ _ r} h _ _ _ := by
    rw [NodeRecord.problems_build, List.count_append, List.count_eq_zero.mpr (hnever r ref.id)]
    exact h

/-- The record of a node converts. -/
theorem Progress.not_tells (h : Progress g root done queue d) {id : String}
    (hbuilt : d.contains id = true) : ¬ g.Tells id problem := by
  obtain ⟨node, hnode, rfl⟩ := h.consistent.contains_iff.mp hbuilt
  obtain ⟨ref, r, -, hr, -⟩ := h.built node hnode
  rintro ⟨value, e, hvalue, he, -⟩
  rw [Records.decoded?_of_error hvalue he] at hr
  cases hr

/-- A walk tells of the references it takes. -/
theorem kept_tells (start : Journal) (root : String)
    (hnever : ∀ (r : NodeRecord) id, problem ∉ r.told id) :
    KeptByTurns g fun done queue d j => Progress g root done queue d ∧
      (problem ∈ j.problems ↔
        problem ∈ start.problems ∨ ∃ ref ∈ done, g.Tells ref.id problem) := by
  have hsilent : ∀ {j : Journal} {done : List Reference} {ref : Reference},
      (problem ∈ j.problems ↔ problem ∈ start.problems ∨ ∃ ref ∈ done, g.Tells ref.id problem) →
        ¬ g.Tells ref.id problem →
          (problem ∈ j.problems ↔
            problem ∈ start.problems ∨ ∃ other ∈ done ++ [ref], g.Tells other.id problem) := by
    intro j done ref htold hnot
    simpa [or_and_right, exists_or, hnot] using htold
  constructor
  case again =>
    rintro done rest ref d j ⟨hprogress, htold⟩ hbuilt
    refine ⟨hprogress.skip fun _ => hbuilt, ?_⟩
    rw [Journal.problems_note]
    exact hsilent htold (hprogress.not_tells hbuilt)
  case noRecord =>
    rintro done rest ref d j ⟨hprogress, htold⟩ - hrecord
    refine ⟨hprogress.skip_noRecord hrecord, ?_⟩
    rw [Journal.problems_note]
    exact hsilent htold (Records.not_tells_of_noRecord hrecord)
  case malformed =>
    rintro done rest ref d j value e ⟨hprogress, htold⟩ - hrecord hdecode
    refine ⟨hprogress.skip_malformed hrecord hdecode, ?_⟩
    rw [Journal.mem_problems_addOnce, htold, or_assoc,
      ← Records.tells_iff_of_error hrecord hdecode]
    simp [or_and_right, exists_or]
  case build =>
    rintro done rest ref d j value r ⟨hprogress, htold⟩ hnew hrecord hdecode
    refine ⟨hprogress.build hnew (Records.decoded?_of_ok hrecord hdecode), ?_⟩
    rw [NodeRecord.problems_build, List.mem_append, or_iff_left (hnever r ref.id)]
    exact hsilent htold (Records.not_tells_of_ok hrecord hdecode)

/-- The ids that were referred to are those that are reached. -/
theorem Explored.exists_reference_iff (h : Explored g root d) {id : String} :
    (∃ ref ∈ d.references root, ref.id = id) ↔ g.Reaches root id := by
  constructor
  · rintro ⟨ref, href, rfl⟩
    rcases List.mem_cons.mp href with rfl | hchild
    · exact ⟨0, .root⟩
    · obtain ⟨parent, hparent, hid⟩ := List.mem_flatMap.mp hchild
      obtain ⟨child, hlisted, rfl⟩ := List.mem_map.mp hid
      obtain ⟨⟨n, hn⟩, -⟩ := (h.exists_iff parent.id).mp ⟨parent, hparent, rfl⟩
      exact ⟨n + 1, h.reachesIn_child hparent hn hlisted⟩
  · rintro ⟨n, hn⟩
    cases hn with
    | root => exact ⟨.root root, List.mem_cons_self .., rfl⟩
    | child above record listed =>
        obtain ⟨parent, hparent, -, hchild⟩ := h.exists_lister
          (h.contains_of_reachesIn above (by rw [record]; rfl)) record listed
        exact ⟨_, mem_references hparent hchild, rfl⟩

/-- Building the nodes of a graph tells of the records that are reached. -/
theorem mem_problems_ofRecords_iff (hnever : ∀ (r : NodeRecord) id, problem ∉ r.told id) :
    problem ∈ (ofRecords g root j).2.problems ↔
      problem ∈ j.problems ∨ ∃ id, g.Reaches root id ∧ g.Tells id problem := by
  have hiff : problem ∈ (walk g [.root root] empty j).2.problems ↔ problem ∈ j.problems ∨
      ∃ ref ∈ taken g [.root root] empty, g.Tells ref.id problem :=
    ((kept_tells j root hnever).walk [] ⟨progress_empty g root, by simp⟩).2
  have hexplored := explored_ofRecords g root j
  change problem ∈ ((walk g [.root root] empty j).2.note _).problems ↔ _
  rw [Journal.problems_note, hiff, taken_root g root j]
  refine or_congr_right ⟨?_, ?_⟩
  · rintro ⟨ref, href, htells⟩
    exact ⟨ref.id, hexplored.exists_reference_iff.mp ⟨ref, href, rfl⟩, htells⟩
  · rintro ⟨id, hreach, htells⟩
    obtain ⟨ref, href, rfl⟩ := hexplored.exists_reference_iff.mpr hreach
    exact ⟨ref, href, htells⟩

/-- Building the nodes of a graph, and of the graph without the record that tells a problem. -/
theorem alike_ofRecords {times : Nat} (h : g.Omits problem g')
    (hnever : ∀ (r : NodeRecord) id, problem ∉ r.told id)
    (htold : times = 1 ∧ (∃ id, g.Reaches root id ∧ g.Tells id problem) ∨
      times = 0 ∧ ¬ ∃ id, g.Reaches root id ∧ g.Tells id problem) :
    AlikeBut problem times (ofRecords g root) (ofRecords g' root) where
  result hjk := (walk_omits h hnever hjk).1
  lacks hjk := (walk_omits h hnever hjk).2.note _ _
  count j hj := by
    have hmem : problem ∈ (ofRecords g root j).2.problems ↔
        problem ∈ j.problems ∨ ∃ id, g.Reaches root id ∧ g.Tells id problem :=
      mem_problems_ofRecords_iff hnever
    have hcount : (ofRecords g root j).2.problems.count problem = j.problems.count problem ∨
        problem ∉ j.problems ∧ (ofRecords g root j).2.problems.count problem = 1 := by
      change ((walk g [.root root] empty j).2.note _).problems.count problem = _ ∨ _ ∧
        ((walk g [.root root] empty j).2.note _).problems.count problem = 1
      rw [Journal.problems_note]
      exact (kept_count j hnever).walk [] (Or.inl rfl)
    rcases htold with ⟨rfl, htells⟩ | ⟨rfl, hnone⟩
    · have hnot : problem ∉ j.problems := hj.resolve_right Nat.one_ne_zero
      rw [List.count_eq_zero.mpr hnot, Nat.zero_add]
      rcases hcount with hsame | ⟨-, hone⟩
      · rw [List.count_eq_zero.mpr hnot, List.count_eq_zero, hmem] at hsame
        exact absurd (Or.inr htells) hsame
      · exact hone
    · rw [Nat.add_zero]
      rcases hcount with hsame | ⟨hnot, hone⟩
      · exact hsame
      · have hthere := List.count_pos_iff.mp (hone ▸ Nat.one_pos)
        exact absurd (hmem.mp hthere) (not_or.mpr ⟨hnot, hnone⟩)

end NodeDictionary

namespace Document.Malformed

variable {d : Document} {part : Part} {id : String} {e : Json.DecodeError}

/-- Only its own record tells of an entry, and only if it is a record. -/
theorem tells_iff (h : d.Malformed part id e) (hd : d.Distinct) (other : String) :
    d.graph.Tells other (.malformed part id e.message) ↔ part = .graph ∧ other = id := by
  constructor
  · rintro ⟨value, e', -, -, heq⟩
    obtain ⟨hpart, hid, -⟩ := Diagnostic.malformed.inj heq
    exact ⟨hpart, hid.symm⟩
  · rintro ⟨rfl, rfl⟩
    cases h with
    | record below entry error =>
        exact ⟨_, e, (Json.lookup_eq_some_iff hd.records).mpr entry, error, rfl⟩

/-- A document without a malformed record omits what the record tells, and nothing else. -/
theorem omits (h : d.Malformed part id e) (hd : d.Distinct) :
    d.graph.Omits (.malformed part id e.message) (d.without part id).graph where
  omitted other htells := by
    obtain ⟨rfl, rfl⟩ := (h.tells_iff hd other).mp htells
    exact Json.lookup_drop_self other d.graph.entries
  kept other hnot := by
    rw [h.tells_iff hd other] at hnot
    cases h with
    | record => exact Json.lookup_drop_of_ne (fun he => hnot ⟨rfl, he⟩) d.graph.entries
    | camera | texture | material => rfl

open Classical in
/-- The nodes of a document are the same without a malformed entry.  A record that does not
convert is told if it is reached. -/
theorem alike_nodes (h : d.Malformed part id e) (hd : d.Distinct) :
    AlikeBut (.malformed part id e.message)
      (if part = .graph ∧ d.graph.Reaches d.graph.rootId id then 1 else 0)
      (NodeDictionary.ofRecords d.graph d.graph.rootId)
      (NodeDictionary.ofRecords (d.without part id).graph d.graph.rootId) := by
  refine NodeDictionary.alike_ofRecords (h.omits hd)
    (fun r other => r.not_mem_told other id part e) ?_
  have hreached : (∃ other, d.graph.Reaches d.graph.rootId other ∧
      d.graph.Tells other (.malformed part id e.message)) ↔
        part = .graph ∧ d.graph.Reaches d.graph.rootId id := by
    simp only [h.tells_iff hd]
    constructor
    · rintro ⟨other, hreach, hpart, rfl⟩
      exact ⟨hpart, hreach⟩
    · rintro ⟨hpart, hreach⟩
      exact ⟨id, hreach, hpart, rfl⟩
  rw [hreached]
  split
  next hcond => exact Or.inl ⟨rfl, hcond⟩
  next hcond => exact Or.inr ⟨rfl, hcond⟩

end Document.Malformed

end Scenery
