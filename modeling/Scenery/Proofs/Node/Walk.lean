import Scenery.Proofs.Node.Dictionary
import Scenery.Proofs.Node.Reach

/-!
# The course of a walk

A walk takes references from the front of a queue and puts the references of each
node it builds at the end.  So the references it has taken, followed by those
that wait, are always the same list: the reference to the root, and then the
references of the nodes in the order they were built.  This is the first clause
of `Progress`, and what makes the walk go breadth first.

The other clauses say what has become of the references that were taken.  An id
is built when the first reference to it is taken, if its record converts, and
never otherwise.  So the nodes stand in the order of the first references to them
(`Progress.ordered`), and each is what its record comes to with the flags of that
reference (`Progress.built`).

`taken` are the references that a walk takes from its queue.  What every turn keeps
(`KeptByTurns`) holds of them at the end, when no reference waits, if it holds of
none at the start; this is the one induction over a walk.  `Progress` is such a
property (`Progress.skip`, `Progress.build`), and so it holds at the end
(`explored_ofRecords`).
-/

namespace Scenery

/-! ## Lists of references -/

namespace Reference

variable {done more : List Reference} {ref : Reference} {id : String}

/-- The first of several references to an id. -/
def first? (refs : List Reference) (id : String) : Option Reference :=
  refs.find? fun ref => ref.id == id

/-- The place of the first of several references to an id. -/
def place (refs : List Reference) (id : String) : Nat :=
  refs.findIdx fun ref => ref.id == id

/-- The first request for an id asks for that id. -/
theorem id_of_first? (h : first? done id = some ref) : ref.id = id := by
  have hid := List.find?_some h
  exact beq_iff_eq.mp hid

theorem mem_of_first? (h : first? done id = some ref) : ref ∈ done :=
  List.mem_of_find?_eq_some h

/-- Later requests do not change which one was first. -/
theorem first?_append_of_some (h : first? done id = some ref) :
    first? (done ++ more) id = some ref := by
  unfold first? at h ⊢
  rw [List.find?_append, h, Option.some_or]

/-- A request for a new id is the first one for it. -/
theorem first?_append_singleton (h : ∀ other ∈ done, other.id ≠ ref.id) :
    first? (done ++ [ref]) ref.id = some ref := by
  have hnone : (done.find? fun other => other.id == ref.id) = none := by
    rw [List.find?_eq_none]
    intro other hother
    simpa using h other hother
  unfold first?
  rw [List.find?_append, hnone]
  simp

/-- A request that was taken has a place among those taken. -/
theorem place_lt_length (h : ref ∈ done) : place done ref.id < done.length :=
  List.findIdx_lt_length_of_exists ⟨ref, h, by simp⟩

/-- Later requests do not move the place of an earlier one. -/
theorem place_append (h : ref ∈ done) : place (done ++ more) ref.id = place done ref.id := by
  have hlt := place_lt_length h
  unfold place at hlt ⊢
  rw [List.findIdx_append, if_pos hlt]

/-- An id nobody has asked for yet stands after everything taken. -/
theorem length_le_place (h : ∀ other ∈ done, other.id ≠ id) :
    done.length ≤ place (done ++ more) id := by
  have hnot : ¬ (done.findIdx fun other => other.id == id) < done.length := by
    rw [List.findIdx_lt_length]
    rintro ⟨other, hother, hid⟩
    exact h other hother (beq_iff_eq.mp hid)
  unfold place
  rw [List.findIdx_append, if_neg hnot]
  omega

end Reference

/-! ## The node of a record -/

namespace NodeRecord

/-- The node of a record that is referred to, without what there is to tell about
it. -/
def node (r : NodeRecord) (ref : Reference) : Node Float32 := (r.build ref .empty).1

theorem node_children (r : NodeRecord) (ref : Reference) :
    (r.node ref).children = r.childIds := rfl

/-- What is told on the way does not touch the geometry. -/
theorem Payload.step_geometry (id : String) (entry : String × Json) {p q : Payload}
    (h : p.geometry = q.geometry) : (p.step id entry).geometry = (q.step id entry).geometry := by
  unfold step
  split
  · exact h
  · cases Geometry.ofDeclaration entry.2 with
    | error e => exact h
    | ok g =>
        rw [h]
        cases q.geometry with
        | none => rfl
        | some previous => rfl

/-- The geometry read from a record does not depend on the journal. -/
theorem payload_geometry (r : NodeRecord) (id : String) (j k : Journal) :
    (r.payload id j).geometry = (r.payload id k).geometry := by
  have key : ∀ (entries : Json.Members) (p q : Payload), p.geometry = q.geometry →
      (entries.foldl (Payload.step id) p).geometry =
        (entries.foldl (Payload.step id) q).geometry := by
    intro entries
    induction entries with
    | nil => intro p q h; exact h
    | cons entry rest ih => intro p q h; exact ih _ _ (Payload.step_geometry id entry h)
  exact key r.children _ _ rfl

/-- Which node is built does not depend on what was told before. -/
theorem build_fst (r : NodeRecord) (ref : Reference) (journal : Journal) :
    (r.build ref journal).1 = r.node ref := by
  unfold node build
  simp only
  rw [payload_geometry]

end NodeRecord

namespace NodeDictionary

variable {g : Records} {root : String} {d : NodeDictionary Float32} {journal : Journal}
  {ref : Reference} {rest done queue : List Reference}

/-! ## One turn -/

/-- A request for a node that is already built is only noted. -/
theorem walk_contains (h : d.contains ref.id = true) :
    walk g (ref :: rest) d journal = walk g rest d (journal.note (.alreadyBuilt ref.id)) := by
  rw [walk, dif_pos h]

/-- A request for an id without a record is only noted. -/
theorem walk_noRecord (h : d.contains ref.id = false) (hr : g.record? ref.id = none) :
    walk g (ref :: rest) d journal = walk g rest d (journal.note (.noRecord ref.id)) := by
  rw [walk, dif_neg (by rw [h]; exact Bool.false_ne_true)]
  split
  · rfl
  next value hvalue => rw [hr] at hvalue; cases hvalue

/-- A new request for an id with a record turns on whether the record can be read. -/
theorem walk_record {value : Json} (h : d.contains ref.id = false)
    (hr : g.record? ref.id = some value) :
    walk g (ref :: rest) d journal =
      match NodeRecord.decode value with
      | .error e => walk g rest d (journal.addOnce (.malformed .graph ref.id e.message))
      | .ok r =>
          walk g (rest ++ (r.build ref journal).1.references) (d.insert (r.build ref journal).1).1
            (r.build ref journal).2 := by
  rw [walk, dif_neg (by rw [h]; exact Bool.false_ne_true)]
  split
  next hnone => rw [hr] at hnone; cases hnone
  next other hother =>
    obtain rfl : value = other := Option.some.inj (hr.symm.trans hother)
    rfl

/-- A record that cannot be read is one problem, and nothing is built for it. -/
theorem walk_malformed {value : Json} {e : Json.DecodeError} (h : d.contains ref.id = false)
    (hr : g.record? ref.id = some value) (he : NodeRecord.decode value = .error e) :
    walk g (ref :: rest) d journal =
      walk g rest d (journal.addOnce (.malformed .graph ref.id e.message)) := by
  rw [walk_record h hr, he]

/-- A record that can be read is built, and its children are asked for after all others. -/
theorem walk_build {value : Json} {r : NodeRecord} (h : d.contains ref.id = false)
    (hr : g.record? ref.id = some value) (hd : NodeRecord.decode value = .ok r) :
    walk g (ref :: rest) d journal =
      walk g (rest ++ (r.node ref).references) (d.insert (r.node ref)).1
        (r.build ref journal).2 := by
  rw [walk_record h hr, hd]
  simp only [NodeRecord.build_fst]

/-! ## The invariant -/

/-- The references a walk takes in all: the one to the root, and those of its
nodes in the order they were built. -/
def references (d : NodeDictionary Float32) (root : String) : List Reference :=
  .root root :: d.toList.flatMap Node.references

/-- How far a walk has come.  `done` are the references it has taken and `queue`
are those that wait. -/
structure Progress (g : Records) (root : String) (done queue : List Reference)
    (d : NodeDictionary Float32) : Prop where
  /-- The dictionary agrees with its index. -/
  consistent : d.Consistent
  /-- No reference is lost, and they are taken in the order of the nodes. -/
  stream : done ++ queue = d.references root
  /-- Every id that was referred to is built if its record converts. -/
  complete : ∀ ref ∈ done, (g.decoded? ref.id).isSome = true → d.contains ref.id = true
  /-- Every node comes from its record and the first reference to it. -/
  built : ∀ node ∈ d.toList, ∃ ref r,
    Reference.first? done node.id = some ref ∧ g.decoded? node.id = some r ∧ node = r.node ref
  /-- The nodes stand in the order of the first references to them. -/
  ordered : d.toList.Pairwise fun a b => Reference.place done a.id < Reference.place done b.id
  /-- Every node but the root stands behind a node that lists it. -/
  earlier : ∀ (i : Nat) (node : Node Float32), d.toList[i]? = some node → node.id ≠ root →
    ∃ j < i, ∃ parent, d.toList[j]? = some parent ∧ node.id ∈ parent.children

/-- Every node was referred to. -/
theorem Progress.referred (h : Progress g root done queue d) {node : Node Float32}
    (hn : node ∈ d.toList) : ∃ ref ∈ done, ref.id = node.id := by
  obtain ⟨ref, r, hfirst, -, -⟩ := h.built node hn
  exact ⟨ref, Reference.mem_of_first? hfirst, Reference.id_of_first? hfirst⟩

/-- More references after those that were taken leave the places of the nodes as
they are. -/
theorem Progress.place_append (h : Progress g root done queue d) {node : Node Float32}
    (hn : node ∈ d.toList) (more : List Reference) :
    Reference.place (done ++ more) node.id = Reference.place done node.id := by
  obtain ⟨ref, hmem, hid⟩ := h.referred hn
  rw [← hid]
  exact Reference.place_append hmem

/-- The order of the nodes is that of the requests, also when more requests follow. -/
theorem Progress.ordered_append (h : Progress g root done queue d) (more : List Reference) :
    d.toList.Pairwise fun a b =>
      Reference.place (done ++ more) a.id < Reference.place (done ++ more) b.id := by
  refine h.ordered.imp_of_mem ?_
  intro a b ha hb hab
  rw [h.place_append ha, h.place_append hb]
  exact hab

/-- They also leave the nodes with the references they were built from. -/
theorem Progress.built_append (h : Progress g root done queue d) {node : Node Float32}
    (hn : node ∈ d.toList) (more : List Reference) :
    ∃ ref r, Reference.first? (done ++ more) node.id = some ref ∧
      g.decoded? node.id = some r ∧ node = r.node ref := by
  obtain ⟨ref, r, hfirst, hr, hbuilt⟩ := h.built node hn
  exact ⟨ref, r, Reference.first?_append_of_some hfirst, hr, hbuilt⟩

/-- An id that is not built though its record converts was not referred to before. -/
theorem Progress.fresh (h : Progress g root done queue d) {id : String}
    (hnew : d.contains id = false) (hr : (g.decoded? id).isSome = true) :
    ∀ other ∈ done, other.id ≠ id := by
  rintro other hother rfl
  have hbuilt := h.complete other hother hr
  rw [hnew] at hbuilt
  cases hbuilt

/-- A reference that waits goes to the root or to a child of a node. -/
theorem Progress.waiting (h : Progress g root done queue d) (hq : ref ∈ queue) :
    ref.id = root ∨ ∃ parent ∈ d.toList, ref.id ∈ parent.children := by
  have hmem : ref ∈ d.references root := by
    rw [← h.stream]
    exact List.mem_append_right done hq
  unfold references at hmem
  rcases List.mem_cons.mp hmem with hroot | hchild
  · exact Or.inl (congrArg Reference.id hroot)
  · obtain ⟨parent, hparent, href⟩ := List.mem_flatMap.mp hchild
    obtain ⟨id, hid, rfl⟩ := List.mem_map.mp href
    exact Or.inr ⟨parent, hparent, hid⟩

/-- At the start nothing is built and the reference to the root waits. -/
theorem progress_empty (g : Records) (root : String) :
    Progress g root [] [.root root] empty where
  consistent := consistent_empty
  stream := by simp [references, toList_empty]
  complete := by simp
  built := by simp [toList_empty]
  ordered := by simp [toList_empty]
  earlier := by simp [toList_empty]

/-- A turn that builds nothing, since the id is built or its record does not
convert. -/
theorem Progress.skip (h : Progress g root done (ref :: rest) d)
    (hskip : (g.decoded? ref.id).isSome = true → d.contains ref.id = true) :
    Progress g root (done ++ [ref]) rest d where
  consistent := h.consistent
  stream := by rw [List.append_assoc, List.singleton_append, h.stream]
  complete := by
    intro other hother
    rcases List.mem_append.mp hother with hold | hnew
    · exact h.complete other hold
    · obtain rfl := List.mem_singleton.mp hnew
      exact hskip
  built := fun _ hnode => h.built_append hnode [ref]
  ordered := h.ordered_append [ref]
  earlier := h.earlier

/-- A request without a record keeps what is known of the walk. -/
theorem Progress.skip_noRecord (h : Progress g root done (ref :: rest) d)
    (hrecord : g.record? ref.id = none) : Progress g root (done ++ [ref]) rest d :=
  h.skip (by simp [Records.decoded?_of_noRecord hrecord])

/-- A request whose record cannot be read keeps what is known of the walk. -/
theorem Progress.skip_malformed (h : Progress g root done (ref :: rest) d) {value : Json}
    {e : Json.DecodeError} (hrecord : g.record? ref.id = some value)
    (hdecode : NodeRecord.decode value = .error e) : Progress g root (done ++ [ref]) rest d :=
  h.skip (by simp [Records.decoded?_of_error hrecord hdecode])

/-- Every node but the root stands behind a node that lists it, also when the node of a
reference that waits goes to the end. -/
theorem Progress.earlier_insert {last : Node Float32} (h : Progress g root done queue d)
    (htoList : (d.insert last).1.toList = d.toList ++ [last]) (hq : ref ∈ queue)
    (hid : last.id = ref.id) {i : Nat} {node : Node Float32}
    (hi : (d.insert last).1.toList[i]? = some node) (hroot : node.id ≠ root) :
    ∃ j < i, ∃ parent, (d.insert last).1.toList[j]? = some parent ∧
      node.id ∈ parent.children := by
  rw [htoList, List.getElem?_append] at hi
  split at hi
  next hlt =>
    obtain ⟨j, hj, parent, hparent, hchild⟩ := h.earlier i node hi hroot
    refine ⟨j, hj, parent, ?_, hchild⟩
    rw [htoList, List.getElem?_append_left (by omega)]
    exact hparent
  next hge =>
    obtain rfl : node = last := List.mem_singleton.mp (List.mem_of_getElem? hi)
    -- the new node stands last, so any node that lists it stands before it
    obtain he | ⟨parent, hparent, hchild⟩ := h.waiting hq
    · exact absurd (hid.trans he) hroot
    · obtain ⟨j, hj⟩ := List.mem_iff_getElem?.mp hparent
      have hlt : j < d.toList.length := (List.getElem?_eq_some_iff.mp hj).1
      refine ⟨j, by omega, parent, ?_, by rw [hid]; exact hchild⟩
      rw [htoList, List.getElem?_append_left hlt]
      exact hj

/-- A turn that builds a node. -/
theorem Progress.build {r : NodeRecord} (h : Progress g root done (ref :: rest) d)
    (hnew : d.contains ref.id = false) (hr : g.decoded? ref.id = some r) :
    Progress g root (done ++ [ref]) (rest ++ (r.node ref).references)
      (d.insert (r.node ref)).1 := by
  have htoList : (d.insert (r.node ref)).1.toList = d.toList ++ [r.node ref] :=
    toList_insert_of_not_contains hnew
  have hfresh : ∀ other ∈ done, other.id ≠ ref.id := h.fresh hnew (by rw [hr]; rfl)
  constructor
  case consistent => exact h.consistent.insert _
  case stream =>
    calc done ++ [ref] ++ (rest ++ (r.node ref).references)
        = (done ++ ref :: rest) ++ (r.node ref).references := by simp
      _ = d.references root ++ (r.node ref).references := by rw [h.stream]
      _ = (d.insert (r.node ref)).1.references root := by simp [references, htoList]
  case complete =>
    intro other hother hconverts
    rw [contains_insert, Bool.or_eq_true]
    rcases List.mem_append.mp hother with hold | hlast
    · exact Or.inl (h.complete other hold hconverts)
    · obtain rfl := List.mem_singleton.mp hlast
      exact Or.inr (beq_self_eq_true other.id)
  case built =>
    intro node hnode
    rw [htoList] at hnode
    rcases List.mem_append.mp hnode with hold | hlast
    · exact h.built_append hold [ref]
    · obtain rfl := List.mem_singleton.mp hlast
      exact ⟨ref, r, Reference.first?_append_singleton hfresh, hr, rfl⟩
  case ordered =>
    rw [htoList, List.pairwise_append]
    refine ⟨h.ordered_append [ref], List.pairwise_singleton _ _, ?_⟩
    intro a ha b hb
    obtain rfl := List.mem_singleton.mp hb
    obtain ⟨other, hother, hid⟩ := h.referred ha
    calc Reference.place (done ++ [ref]) a.id
        = Reference.place done a.id := h.place_append ha _
      _ < done.length := by rw [← hid]; exact Reference.place_lt_length hother
      _ ≤ Reference.place (done ++ [ref]) (r.node ref).id := Reference.length_le_place hfresh
  case earlier =>
    intro i node hi hroot
    exact h.earlier_insert htoList (List.mem_cons_self ..) rfl hi hroot

/-! ## A whole walk -/

/-- The references that a walk takes, in order. -/
def taken (g : Records) (queue : List Reference) (d : NodeDictionary Float32) : List Reference :=
  match queue with
  | [] => []
  | ref :: rest =>
      if _ : d.contains ref.id then ref :: taken g rest d
      else
        match _ : g.decoded? ref.id with
        | none => ref :: taken g rest d
        | some r => ref :: taken g (rest ++ (r.node ref).references) (d.insert (r.node ref)).1
termination_by (g.unbuilt d, queue.length)
decreasing_by
  · exact Prod.Lex.right _ (by simp)
  · exact Prod.Lex.right _ (by simp)
  · obtain ⟨value, hvalue, -⟩ := Option.bind_eq_some_iff.mp ‹_›
    exact Prod.Lex.left _ _ (Records.unbuilt_insert_lt hvalue (Bool.eq_false_iff.mpr ‹_›))

/-- A request that builds nothing is taken and leads nowhere. -/
theorem taken_skip (hskip : (g.decoded? ref.id).isSome = true → d.contains ref.id = true) :
    taken g (ref :: rest) d = ref :: taken g rest d := by
  rw [taken]
  split
  next => rfl
  next hnew =>
    split
    next => rfl
    next r hr => exact absurd (hskip (by rw [hr]; rfl)) hnew

/-- A request that builds a node is taken, and the node's references are asked for later. -/
theorem taken_build {r : NodeRecord} (hnew : d.contains ref.id = false)
    (hr : g.decoded? ref.id = some r) :
    taken g (ref :: rest) d =
      ref :: taken g (rest ++ (r.node ref).references) (d.insert (r.node ref)).1 := by
  rw [taken, dif_neg (by rw [hnew]; exact Bool.false_ne_true)]
  split
  next hnone => rw [hr] at hnone; cases hnone
  next other hother =>
    obtain rfl : r = other := Option.some.inj (hr.symm.trans hother)
    rfl

/-- Every turn of a walk keeps a property of the references that were taken, of those that wait,
of the dictionary and of the journal. -/
structure KeptByTurns (g : Records)
    (P : List Reference → List Reference → NodeDictionary Float32 → Journal → Prop) : Prop where
  /-- The id is built already. -/
  again {done rest : List Reference} {ref : Reference} {d : NodeDictionary Float32} {j : Journal}
    (h : P done (ref :: rest) d j) (hbuilt : d.contains ref.id = true) :
    P (done ++ [ref]) rest d (j.note (.alreadyBuilt ref.id))
  /-- The id has no record. -/
  noRecord {done rest : List Reference} {ref : Reference} {d : NodeDictionary Float32}
    {j : Journal} (h : P done (ref :: rest) d j) (hnew : d.contains ref.id = false)
    (hrecord : g.record? ref.id = none) : P (done ++ [ref]) rest d (j.note (.noRecord ref.id))
  /-- The record does not convert. -/
  malformed {done rest : List Reference} {ref : Reference} {d : NodeDictionary Float32}
    {j : Journal} {value : Json} {e : Json.DecodeError} (h : P done (ref :: rest) d j)
    (hnew : d.contains ref.id = false) (hrecord : g.record? ref.id = some value)
    (hdecode : NodeRecord.decode value = .error e) :
    P (done ++ [ref]) rest d (j.addOnce (.malformed .graph ref.id e.message))
  /-- The node is built. -/
  build {done rest : List Reference} {ref : Reference} {d : NodeDictionary Float32} {j : Journal}
    {value : Json} {r : NodeRecord} (h : P done (ref :: rest) d j)
    (hnew : d.contains ref.id = false) (hrecord : g.record? ref.id = some value)
    (hdecode : NodeRecord.decode value = .ok r) :
    P (done ++ [ref]) (rest ++ (r.node ref).references) (d.insert (r.node ref)).1
      (r.build ref j).2

/-- What every turn keeps a walk keeps.  It takes all references that wait, and those that come
up meanwhile. -/
theorem KeptByTurns.walk
    {P : List Reference → List Reference → NodeDictionary Float32 → Journal → Prop}
    (hP : KeptByTurns g P) (done : List Reference) (h : P done queue d journal) :
    P (done ++ taken g queue d) [] (walk g queue d journal).1 (walk g queue d journal).2 := by
  induction queue, d, journal using walk.induct g generalizing done with
  | case1 d journal =>
      rw [NodeDictionary.walk, taken, List.append_nil]
      exact h
  | case2 d journal ref rest hbuilt ih =>
      rw [walk_contains hbuilt, taken_skip fun _ => hbuilt, List.append_cons]
      exact ih _ (hP.again h hbuilt)
  | case3 d journal ref rest hnew hrecord ih =>
      have hnew' := Bool.eq_false_iff.mpr hnew
      rw [walk_noRecord hnew' hrecord,
        taken_skip (by simp [Records.decoded?_of_noRecord hrecord]), List.append_cons]
      exact ih _ (hP.noRecord h hnew' hrecord)
  | case4 d journal ref rest hnew value hrecord e hdecode ih =>
      have hnew' := Bool.eq_false_iff.mpr hnew
      rw [walk_malformed hnew' hrecord hdecode,
        taken_skip (by simp [Records.decoded?_of_error hrecord hdecode]), List.append_cons]
      exact ih _ (hP.malformed h hnew' hrecord hdecode)
  | case5 d journal ref rest hnew value hrecord r hdecode built =>
      rename_i ih
      have hnew' := Bool.eq_false_iff.mpr hnew
      rw [walk_build hnew' hrecord hdecode,
        taken_build hnew' (Records.decoded?_of_ok hrecord hdecode), List.append_cons]
      simp only [built, NodeRecord.build_fst] at ih
      exact ih _ (hP.build h hnew' hrecord hdecode)

/-- Each turn of the walk keeps what is known of its progress. -/
theorem kept_progress (g : Records) (root : String) :
    KeptByTurns g fun done queue d _ => Progress g root done queue d where
  again h hbuilt := h.skip fun _ => hbuilt
  noRecord h _ hrecord := h.skip_noRecord hrecord
  malformed h _ hrecord hdecode := h.skip_malformed hrecord hdecode
  build h hnew hrecord hdecode := h.build hnew (Records.decoded?_of_ok hrecord hdecode)

/-- At the end of the walk all requests are taken and none is waiting. -/
theorem progress_taken (g : Records) (root : String) (journal : Journal) :
    Progress g root (taken g [.root root] empty) [] (ofRecords g root journal).1 :=
  (kept_progress g root).walk [] (progress_empty g root)

/-- Nothing is left to do: all references of all nodes have been taken. -/
abbrev Explored (g : Records) (root : String) (d : NodeDictionary Float32) : Prop :=
  Progress g root (d.references root) [] d

/-- The references that are taken are the one to the root and those of the nodes. -/
theorem taken_root (g : Records) (root : String) (journal : Journal) :
    taken g [.root root] empty = (ofRecords g root journal).1.references root :=
  (List.append_nil _).symm.trans (progress_taken g root journal).stream

/-- The dictionary that the walk gives explores the records from the root. -/
theorem explored_ofRecords (g : Records) (root : String) (journal : Journal) :
    Explored g root (ofRecords g root journal).1 := by
  unfold Explored
  rw [← taken_root g root journal]
  exact progress_taken g root journal

end NodeDictionary

end Scenery
