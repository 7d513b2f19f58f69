import Scenery.Proofs.Omission.Graph

/-!
# What the nodes of a graph depend on

Building nodes from a root looks at the records that the root reaches (`Records.Reaches`)
and at no others.  So two graphs that agree on those come to the same nodes and tell the same
problems, whatever else is in them and in whatever order (`NodeDictionary.Confined`).

*Two walks in lockstep.*  What is reached is only discovered on the way, in records that may
not convert.  It is enough that every reference that waits goes to an id that is reached in
the first graph.  Then both walks find the same record for it, and so they do the same with
it.  If they build a node, its children are reached too (`NodeDictionary.walk_agrees`).

*Order.*  Keys differ in an object that was read, so a record is found at whatever place it
stands.  The root id stands among the records until it is taken out.  The member that stands
last may be moved into its place (`Json.swapOut`), which is one of the orders.
-/

namespace Scenery

namespace Json

/-- Take the members of a key out, the last of all into the place of the first of them. -/
def swapOut (key : String) : Members → Members
  | [] => []
  | member :: rest =>
      if member.1 = key then rest.getLast?.toList ++ rest.dropLast else member :: swapOut key rest

variable {key : String} {ms ns : Members}

theorem drop_of_not_mem (h : key ∉ keys ms) : drop key ms = ms := by
  refine List.filter_eq_self.mpr ?_
  intro member hmember
  exact bne_iff_ne.mpr fun he => h (he ▸ List.mem_map_of_mem hmember)

/-- Moving the last member changes the order of what is left, and nothing else. -/
theorem swapOut_perm_drop (h : (keys ms).Nodup) : (swapOut key ms).Perm (drop key ms) := by
  induction ms with
  | nil => exact .refl _
  | cons member rest ih =>
      obtain ⟨hnew, hrest⟩ := List.nodup_cons.mp h
      by_cases hkey : member.1 = key
      · have hgone : drop key (member :: rest) = rest := by
          rw [drop, List.filter_cons_of_neg (by simp [hkey])]
          exact drop_of_not_mem (hkey ▸ hnew)
        rw [swapOut, if_pos hkey, hgone]
        cases hlast : rest.getLast? with
        | none =>
            obtain rfl := List.getLast?_eq_none_iff.mp hlast
            exact .refl _
        | some last =>
            obtain ⟨before, rfl⟩ := List.getLast?_eq_some_iff.mp hlast
            rw [List.dropLast_concat]
            exact List.perm_append_comm
      · rw [swapOut, if_neg hkey, drop, List.filter_cons_of_pos (by simp [hkey])]
        exact (ih hrest).cons member

/-- Where keys differ, a value is found at whatever place it stands. -/
theorem lookup_perm (h : (keys ms).Nodup) (hperm : ns.Perm ms) (key : String) :
    ns.lookup key = ms.lookup key := by
  have hns : (keys ns).Nodup := (hperm.map _).nodup_iff.mpr h
  ext v
  rw [lookup_eq_some_iff hns, lookup_eq_some_iff h]
  exact hperm.mem_iff

end Json

namespace Records

/-- A graph has the records of another as far as a root reaches there.  What has no record
in the one has none in the other. -/
def AgreesFrom (g : Records) (root : String) (g' : Records) : Prop :=
  ∀ id, g.Reaches root id → g'.record? id = g.record? id

variable {g g' : Records} {root : String}

/-- Records in another order agree on all that is reached. -/
theorem agreesFrom_of_perm (h : (Json.keys g.entries).Nodup) (hperm : g'.entries.Perm g.entries) :
    g.AgreesFrom root g' := fun id _ => Json.lookup_perm h hperm id

/-- Records without some that are not reached agree on all that is. -/
theorem agreesFrom_filter {keep : String → Bool} (h : ∀ id, g.Reaches root id → keep id = true) :
    g.AgreesFrom root ⟨g.rootId, g.entries.filter fun entry => keep entry.1⟩ := by
  intro id hreach
  have hkeep := h id hreach
  unfold record?
  induction g.entries with
  | nil => rfl
  | cons entry rest ih =>
      obtain ⟨key, value⟩ := entry
      by_cases hid : id = key
      · subst hid
        simp [hkeep]
      · have hne : (id == key) = false := beq_false_of_ne hid
        cases hkey : keep key with
        | true => simp [List.lookup_cons, hkey, hne, ih]
        | false => simp [List.lookup_cons, hkey, hne, ih]

/-- The children of a record that converts are reached if its id is. -/
theorem Reaches.child {id child : String} {r : NodeRecord} (h : g.Reaches root id)
    (hr : g.decoded? id = some r) (hchild : child ∈ r.childIds) : g.Reaches root child := by
  obtain ⟨n, hn⟩ := h
  exact ⟨n + 1, hn.child hr (NodeRecord.mem_childIds.mp hchild)⟩

/-- The members of a section make the same graph in any order, but for the order of its
records. -/
theorem ofSection_perm {members members' : Json.Members} (h : (Json.keys members).Nodup)
    (hperm : members'.Perm members) (hg : ofSection members = .ok g) :
    ∃ g', ofSection members' = .ok g' ∧ g'.rootId = g.rootId ∧ g'.entries.Perm g.entries := by
  obtain ⟨hroot, hentries⟩ := Document.ofSection_eq_ok_iff.mp hg
  refine ⟨⟨g.rootId, Json.drop rootKey members'⟩, ?_, rfl, ?_⟩
  · refine Document.ofSection_eq_ok_iff.mpr ⟨?_, rfl⟩
    rw [Json.lookup_perm h hperm]
    exact hroot
  · rw [hentries]
    exact hperm.filter _

/-- The records of a section have distinct ids if its members have. -/
theorem nodup_keys_ofSection {members : Json.Members} (h : (Json.keys members).Nodup)
    (hg : ofSection members = .ok g) : (Json.keys g.entries).Nodup := by
  rw [(Document.ofSection_eq_ok_iff.mp hg).2]
  exact h.sublist (List.filter_sublist.map _)

end Records

namespace NodeDictionary

variable {g g' : Records} {root : String} {d : NodeDictionary Float32} {j k : Journal}
  {queue : List Reference}

/-- Two builds come to the same nodes in the same order, and tell the same problems in the
same order. -/
def SameOutcome (a b : NodeDictionary Float32 × Journal) : Prop :=
  a.1 = b.1 ∧ a.2.problems = b.2.problems

/-- Walks over two graphs take the same turns as long as what waits is reached. -/
theorem walk_agrees (h : g.AgreesFrom root g') (hqueue : ∀ ref ∈ queue, g.Reaches root ref.id)
    (hjk : k.problems = j.problems) : SameOutcome (walk g' queue d k) (walk g queue d j) := by
  induction queue, d, j using walk.induct g generalizing k with
  | case1 d j =>
      rw [walk, walk]
      exact ⟨rfl, hjk⟩
  | case2 d j ref rest hbuilt ih =>
      rw [walk_contains hbuilt, walk_contains hbuilt]
      refine ih (fun other hother => hqueue other (List.mem_cons_of_mem _ hother)) ?_
      simpa using hjk
  | case3 d j ref rest hnew hrecord ih =>
      have hnew' := Bool.eq_false_iff.mpr hnew
      have hrecord' := (h ref.id (hqueue ref (List.mem_cons_self ..))).trans hrecord
      rw [walk_noRecord hnew' hrecord, walk_noRecord hnew' hrecord']
      refine ih (fun other hother => hqueue other (List.mem_cons_of_mem _ hother)) ?_
      simpa using hjk
  | case4 d j ref rest hnew value hrecord e hdecode ih =>
      have hnew' := Bool.eq_false_iff.mpr hnew
      have hrecord' := (h ref.id (hqueue ref (List.mem_cons_self ..))).trans hrecord
      rw [walk_malformed hnew' hrecord hdecode, walk_malformed hnew' hrecord' hdecode]
      refine ih (fun other hother => hqueue other (List.mem_cons_of_mem _ hother)) ?_
      rw [Journal.problems_addOnce, Journal.problems_addOnce, hjk]
  | case5 d j ref rest hnew value hrecord r hdecode built =>
      rename_i ih
      have hnew' := Bool.eq_false_iff.mpr hnew
      have hreach := hqueue ref (List.mem_cons_self ..)
      have hrecord' := (h ref.id hreach).trans hrecord
      have hr : g.decoded? ref.id = some r := Records.decoded?_of_ok hrecord hdecode
      rw [walk_build hnew' hrecord hdecode, walk_build hnew' hrecord' hdecode]
      simp only [built, NodeRecord.build_fst] at ih
      refine ih ?_ ?_
      · intro other hother
        rcases List.mem_append.mp hother with hwaits | hchild
        · exact hqueue other (List.mem_cons_of_mem _ hwaits)
        · obtain ⟨child, hlisted, rfl⟩ := List.mem_map.mp hchild
          exact hreach.child hr hlisted
      · rw [NodeRecord.problems_build, NodeRecord.problems_build, hjk]

/-- Records that agree on what the root reaches give the same nodes and the same problems. -/
theorem ofRecords_agrees (h : g.AgreesFrom root g') (hjk : k.problems = j.problems) :
    SameOutcome (ofRecords g' root k) (ofRecords g root j) := by
  have hwaits : ∀ ref ∈ [Reference.root root], g.Reaches root ref.id := by
    intro ref href
    rw [List.mem_singleton.mp href]
    exact ⟨0, .root⟩
  obtain ⟨hnodes, hproblems⟩ := walk_agrees (d := empty) h hwaits hjk
  refine ⟨hnodes, ?_⟩
  change (Journal.note _ _).problems = (Journal.note _ _).problems
  rw [Journal.problems_note, Journal.problems_note]
  exact hproblems

/-- What is built from a root depends on what the root reaches, and on nothing else: not on
other records (`reached`, `unreached`), nor on the order of the records or of the members of
their section (`order`, `members`), nor on how the root id is taken out of it (`swapped`). -/
structure Confined (g : Records) (root : String) : Prop where
  reached : ∀ g' j k, g.AgreesFrom root g' → k.problems = j.problems →
    SameOutcome (ofRecords g' root k) (ofRecords g root j)
  unreached : ∀ keep : String → Bool, (∀ id, g.Reaches root id → keep id = true) → ∀ j,
    SameOutcome (ofRecords ⟨g.rootId, g.entries.filter fun entry => keep entry.1⟩ root j)
      (ofRecords g root j)
  order : (Json.keys g.entries).Nodup → ∀ g' j, g'.entries.Perm g.entries →
    SameOutcome (ofRecords g' root j) (ofRecords g root j)
  members : ∀ ms ns : Json.Members, (Json.keys ms).Nodup → ns.Perm ms →
    Records.ofSection ms = .ok g → ∃ g', Records.ofSection ns = .ok g' ∧
      g'.rootId = g.rootId ∧ ∀ j, SameOutcome (ofRecords g' root j) (ofRecords g root j)
  swapped : ∀ ms : Json.Members, (Json.keys ms).Nodup → Records.ofSection ms = .ok g → ∀ j,
    SameOutcome (ofRecords ⟨g.rootId, Json.swapOut Records.rootKey ms⟩ root j)
      (ofRecords g root j)

/-- The nodes of every root and every records are confined to what the root reaches. -/
theorem confined_ofRecords (g : Records) (root : String) : Confined g root := by
  constructor
  case reached => exact fun g' j k h hjk => ofRecords_agrees h hjk
  case unreached => exact fun keep h j => ofRecords_agrees (Records.agreesFrom_filter h) rfl
  case order =>
    exact fun hkeys g' j hperm => ofRecords_agrees (Records.agreesFrom_of_perm hkeys hperm) rfl
  case members =>
    intro ms ns hkeys hperm hg
    obtain ⟨g', hg', hroot, hentries⟩ := Records.ofSection_perm hkeys hperm hg
    have hagrees : g.AgreesFrom root g' :=
      Records.agreesFrom_of_perm (Records.nodup_keys_ofSection hkeys hg) hentries
    exact ⟨g', hg', hroot, fun j => ofRecords_agrees hagrees rfl⟩
  case swapped =>
    intro ms hkeys hg j
    have hentries : (Json.swapOut Records.rootKey ms).Perm g.entries := by
      rw [(Document.ofSection_eq_ok_iff.mp hg).2]
      exact Json.swapOut_perm_drop hkeys
    exact ofRecords_agrees
      (Records.agreesFrom_of_perm (Records.nodup_keys_ofSection hkeys hg) hentries) rfl

/-- The record of a node that leads to one other. -/
def leading (id : String) : Json :=
  .object [("children", .object [(NodeRecord.idsKey, .array [.string id])])]

/-- Two nodes that lead to each other. -/
def ring : Records := ⟨"a", [("a", leading "b"), ("b", leading "a")]⟩

/-- The same in another order, and a record that does not convert between them. -/
def strayedRing : Records := ⟨"a", [("b", leading "a"), ("stray", .null), ("a", leading "b")]⟩

/-- A stray record and another order change nothing about a ring. -/
theorem sameOutcome_strayedRing :
    ring.AgreesFrom "a" strayedRing ∧
      SameOutcome (ofRecords strayedRing "a" .empty) (ofRecords ring "a" .empty) := by
  have hchildren : ∀ id ∈ ["a", "b"], ∃ other ∈ ["a", "b"],
      (ring.decoded? id).map NodeRecord.childIds = some [other] := by decide
  have hreached : ∀ {n id}, ring.ReachesIn "a" n id → id ∈ ["a", "b"] := by
    intro n id hreach
    induction hreach with
    | root => exact List.mem_cons_self ..
    | child _ record listed ih =>
        obtain ⟨other, hother, hids⟩ := hchildren _ ih
        rw [record, Option.map_some, Option.some.injEq] at hids
        have hchild := NodeRecord.mem_childIds.mpr listed
        rw [hids, List.mem_singleton] at hchild
        exact hchild ▸ hother
  have hagrees : ring.AgreesFrom "a" strayedRing := by
    rintro id ⟨n, hn⟩
    rcases List.mem_cons.mp (hreached hn) with rfl | hb
    · rfl
    · rw [List.mem_singleton.mp hb]
      rfl
  exact ⟨hagrees, (confined_ofRecords ring "a").reached strayedRing .empty .empty hagrees rfl⟩

end NodeDictionary

end Scenery
