import Mathlib.Data.Prod.Lex
import Scenery.Proofs.Node.Walk

/-!
# The order of the nodes

`BreadthFirst` says which nodes a dictionary holds and in which order, for a
graph and a root, without a word about queues.

The nodes are those that are reached and whose records convert, each once.  They
stand by their distance from the root.  More precisely, a node that is not the
root stands behind its *first parent*, the first of the nodes that list it, and
of two nodes the one with the earlier first parent comes first.  Of two with the
same first parent, the one that is listed first comes first.

`breadthFirst_ofRecords` says that this is what a graph is built to, whatever is
in its records.
-/

namespace Scenery

/-! ## First parents -/

namespace Node

variable {α : Type}

/-- The first of several nodes that lists an id. -/
def firstParent? (nodes : List (Node α)) (id : String) : Option (Node α) :=
  nodes.find? fun node => node.children.contains id

/-- The place of the first of several nodes that lists an id. -/
def parentPlace (nodes : List (Node α)) (id : String) : Nat :=
  nodes.findIdx fun node => node.children.contains id

/-- The place of an id among the children of the first node that lists it. -/
def childPlace (nodes : List (Node α)) (id : String) : Nat :=
  ((firstParent? nodes id).map fun parent => parent.children.idxOf id).getD 0

/-- Where an id is first listed: the place of its first parent, and then its own
among the children. -/
def listing (nodes : List (Node α)) (id : String) : Nat ×ₗ Nat :=
  toLex (parentPlace nodes id, childPlace nodes id)

variable {parent : Node α} {rest nodes : List (Node α)} {id a b : String}

theorem listing_cons_of_mem (h : id ∈ parent.children) :
    listing (parent :: rest) id = toLex (0, parent.children.idxOf id) := by
  simp [listing, parentPlace, childPlace, firstParent?, List.findIdx_cons, h]

theorem listing_cons_of_not_mem (h : id ∉ parent.children) :
    listing (parent :: rest) id = toLex (parentPlace rest id + 1, childPlace rest id) := by
  simp [listing, parentPlace, childPlace, firstParent?, List.findIdx_cons, h]

/-- The first parent of an id stands where no node behind it can be. -/
theorem parentPlace_le {i : Nat} (hi : nodes[i]? = some parent) (h : id ∈ parent.children) :
    parentPlace nodes id ≤ i := by
  obtain ⟨hlt, hget⟩ := List.getElem?_eq_some_iff.mp hi
  unfold parentPlace
  by_contra hle
  have hnot := List.not_of_lt_findIdx (Nat.lt_of_not_le hle)
  rw [hget] at hnot
  simp [h] at hnot

/-- An id that is listed has a first parent, at the place of it. -/
theorem exists_firstParent (hp : parent ∈ nodes) (h : id ∈ parent.children) :
    ∃ first, firstParent? nodes id = some first ∧
      nodes[parentPlace nodes id]? = some first ∧ id ∈ first.children := by
  have hlt : parentPlace nodes id < nodes.length :=
    List.findIdx_lt_length_of_exists ⟨parent, hp, by simpa using h⟩
  have hlisted : nodes[parentPlace nodes id].children.contains id = true :=
    List.findIdx_getElem (w := hlt)
  refine ⟨nodes[parentPlace nodes id], ?_, List.getElem?_eq_getElem hlt,
    List.contains_iff_mem.mp hlisted⟩
  unfold firstParent?
  rw [List.find?_eq_some_iff_getElem]
  refine ⟨hlisted, _, hlt, rfl, ?_⟩
  intro j hj
  have hnot := List.not_of_lt_findIdx hj
  simpa using hnot

/-! ## References of several nodes -/

variable {more : List Reference}

/-- A child of the first node stands in the queue where it stands among the children. -/
theorem place_references_of_mem (h : id ∈ parent.children) :
    Reference.place (parent.references ++ more) id = parent.children.idxOf id := by
  unfold Reference.place references
  rw [List.findIdx_append, List.findIdx_map, List.length_map]
  exact if_pos (List.idxOf_lt_length_of_mem h)

/-- An id that is no child of the first node stands after all its children. -/
theorem place_references_of_not_mem (h : id ∉ parent.children) :
    Reference.place (parent.references ++ more) id =
      Reference.place more id + parent.children.length := by
  unfold Reference.place references
  rw [List.findIdx_append, List.findIdx_map, List.length_map]
  refine if_neg ?_
  rw [List.findIdx_lt_length]
  rintro ⟨other, hother, he⟩
  obtain rfl : other = id := by simpa using he
  exact h hother

/-- Of two ids that several nodes list, the one that is referred to first is
listed first. -/
theorem listing_lt_of_place_lt (ha : ∃ parent ∈ nodes, a ∈ parent.children)
    (hb : ∃ parent ∈ nodes, b ∈ parent.children)
    (hlt : Reference.place (nodes.flatMap references) a <
      Reference.place (nodes.flatMap references) b) :
    listing nodes a < listing nodes b := by
  induction nodes with
  | nil =>
      obtain ⟨parent, hparent, -⟩ := ha
      cases hparent
  | cons parent rest ih =>
      rw [List.flatMap_cons] at hlt
      -- an id that the first node lists is listed before one that it does not
      by_cases hpa : a ∈ parent.children
      · rw [listing_cons_of_mem hpa]
        by_cases hpb : b ∈ parent.children
        · rw [place_references_of_mem hpa, place_references_of_mem hpb] at hlt
          rw [listing_cons_of_mem hpb, Prod.Lex.toLex_lt_toLex]
          exact Or.inr ⟨rfl, hlt⟩
        · rw [listing_cons_of_not_mem hpb, Prod.Lex.toLex_lt_toLex]
          exact Or.inl (Nat.succ_pos _)
      · rw [place_references_of_not_mem hpa] at hlt
        by_cases hpb : b ∈ parent.children
        · rw [place_references_of_mem hpb] at hlt
          have hidx := List.idxOf_lt_length_of_mem hpb
          omega
        · rw [place_references_of_not_mem hpb] at hlt
          have hrest : listing rest a < listing rest b :=
            ih ((List.or_exists_of_exists_mem_cons ha).resolve_left hpa)
              ((List.or_exists_of_exists_mem_cons hb).resolve_left hpb) (by omega)
          rw [listing_cons_of_not_mem hpa, listing_cons_of_not_mem hpb]
          unfold listing at hrest
          rw [Prod.Lex.toLex_lt_toLex] at hrest ⊢
          simpa using hrest

end Node

namespace NodeDictionary

variable {g : Records} {root : String} {d : NodeDictionary Float32}

/-- A dictionary holds what a graph reaches from a root, breadth first. -/
structure BreadthFirst (g : Records) (root : String) (d : NodeDictionary Float32) : Prop where
  /-- No two nodes have the same id. -/
  distinct : (d.toList.map Node.id).Nodup
  /-- The nodes are those that are reached and whose records convert. -/
  exact : ∀ id, (∃ node ∈ d.toList, node.id = id) ↔
    g.Reaches root id ∧ (g.decoded? id).isSome = true
  /-- A node is found by its id, and nothing else is. -/
  found : ∀ id node, d.get? id = some node ↔ node ∈ d.toList ∧ node.id = id
  /-- The children of a node are those of its record. -/
  children : ∀ node ∈ d.toList, ∃ r, g.decoded? node.id = some r ∧ node.children = r.childIds
  /-- Distances from the root never decrease. -/
  distances : d.toList.Pairwise fun a b => g.distance root a.id ≤ g.distance root b.id
  /-- Every node but the root stands behind a node that lists it. -/
  behindParent : ∀ (i : Nat) (node : Node Float32), d.toList[i]? = some node → node.id ≠ root →
    ∃ j < i, ∃ parent, d.toList[j]? = some parent ∧ node.id ∈ parent.children
  /-- Two nodes that are not the root stand in the order in which they are first
  listed. -/
  listed : ∀ (i j : Nat) (a b : Node Float32), d.toList[i]? = some a → d.toList[j]? = some b →
    a.id ≠ root → b.id ≠ root →
      (i < j ↔ Node.listing d.toList a.id < Node.listing d.toList b.id)

/-! ## Which nodes there are -/

/-- The children of a node are those of its record. -/
theorem Explored.children (h : Explored g root d) {node : Node Float32} (hn : node ∈ d.toList) :
    ∃ r, g.decoded? node.id = some r ∧ node.children = r.childIds := by
  obtain ⟨ref, r, -, hr, hbuilt⟩ := h.built node hn
  exact ⟨r, hr, by rw [hbuilt, NodeRecord.node_children]⟩

theorem Explored.nodup_children (h : Explored g root d) {id : String} {node : Node Float32}
    (found : d.get? id = some node) : node.children.Nodup := by
  obtain ⟨r, -, hchildren⟩ := h.children (h.consistent.get?_eq_some_iff.mp found).1
  rw [hchildren]
  exact r.nodup_childIds

/-- What a record lists, its node lists. -/
theorem Explored.exists_lister (h : Explored g root d) {id child : String} {r : NodeRecord}
    (hbuilt : d.contains id = true) (record : g.decoded? id = some r) (listed : r.Lists child) :
    ∃ parent ∈ d.toList, parent.id = id ∧ child ∈ parent.children := by
  obtain ⟨parent, hparent, rfl⟩ := h.consistent.contains_iff.mp hbuilt
  obtain ⟨s, hs, hchildren⟩ := h.children hparent
  obtain rfl : r = s := Option.some.inj (record.symm.trans hs)
  refine ⟨parent, hparent, rfl, ?_⟩
  rw [hchildren]
  exact NodeRecord.mem_childIds.mpr listed

/-- Whatever a node lists is reached by one reference more than the node. -/
theorem Explored.reachesIn_child (h : Explored g root d) {node : Node Float32}
    (hn : node ∈ d.toList) {n : Nat} (hreach : g.ReachesIn root n node.id) {id : String}
    (hid : id ∈ node.children) : g.ReachesIn root (n + 1) id := by
  obtain ⟨r, hr, hchildren⟩ := h.children hn
  rw [hchildren] at hid
  exact hreach.child hr (NodeRecord.mem_childIds.mp hid)

/-- Every node is reached, by induction on its place: it is the root, or stands
behind a node that lists it. -/
theorem Explored.reaches (h : Explored g root d) {i : Nat} {node : Node Float32}
    (hi : d.toList[i]? = some node) : g.Reaches root node.id := by
  induction i using Nat.strong_induction_on generalizing node with
  | _ i ih =>
      by_cases hroot : node.id = root
      · rw [hroot]
        exact ⟨0, .root⟩
      · obtain ⟨j, hj, parent, hparent, hchild⟩ := h.earlier i node hi hroot
        obtain ⟨n, hn⟩ := ih j hj hparent
        exact ⟨n + 1, h.reachesIn_child (List.mem_of_getElem? hparent) hn hchild⟩

/-- A node refers to whatever it lists. -/
theorem mem_references {parent : Node Float32} {child : String} (hparent : parent ∈ d.toList)
    (hchild : child ∈ parent.children) :
    ⟨child, parent.castShadows, parent.receiveShadows⟩ ∈ d.references root :=
  List.mem_cons_of_mem _
    (List.mem_flatMap.mpr ⟨parent, hparent, List.mem_map.mpr ⟨child, hchild, rfl⟩⟩)

/-- What is reached is built if its record converts. -/
theorem Explored.contains_of_reachesIn (h : Explored g root d) {n : Nat} {id : String}
    (hreach : g.ReachesIn root n id) (hconverts : (g.decoded? id).isSome = true) :
    d.contains id = true := by
  induction hreach with
  | root => exact h.complete (.root root) (List.mem_cons_self ..) hconverts
  | @child _ _ child _ _ record listed ih =>
      obtain ⟨parent, hparent, -, hchild⟩ :=
        h.exists_lister (ih (by rw [record]; rfl)) record listed
      exact h.complete _ (mem_references hparent hchild) hconverts

/-- The nodes are what the root reaches, as far as there are records that convert. -/
theorem Explored.exists_iff (h : Explored g root d) (id : String) :
    (∃ node ∈ d.toList, node.id = id) ↔ g.Reaches root id ∧ (g.decoded? id).isSome = true := by
  constructor
  · rintro ⟨node, hnode, rfl⟩
    obtain ⟨i, hi⟩ := List.mem_iff_getElem?.mp hnode
    obtain ⟨r, hr, -⟩ := h.children hnode
    exact ⟨h.reaches hi, by rw [hr]; rfl⟩
  · rintro ⟨⟨n, hreach⟩, hconverts⟩
    exact h.consistent.contains_iff.mp (h.contains_of_reachesIn hreach hconverts)

/-! ## In which order they stand -/

/-- Nodes stand in the order of their first requests. -/
theorem Explored.place_lt (h : Explored g root d) {i j : Nat} {a b : Node Float32}
    (hi : d.toList[i]? = some a) (hj : d.toList[j]? = some b) (hij : i < j) :
    Reference.place (d.references root) a.id < Reference.place (d.references root) b.id := by
  obtain ⟨hilt, rfl⟩ := List.getElem?_eq_some_iff.mp hi
  obtain ⟨hjlt, rfl⟩ := List.getElem?_eq_some_iff.mp hj
  exact List.pairwise_iff_getElem.mp h.ordered i j hilt hjlt hij

theorem place_references_root (d : NodeDictionary Float32) (root : String) :
    Reference.place (d.references root) root = 0 := by
  simp [Reference.place, references, Reference.root, List.findIdx_cons]

theorem place_references_of_ne {id : String} (h : id ≠ root) :
    Reference.place (d.references root) id =
      Reference.place (d.toList.flatMap Node.references) id + 1 := by
  have hne : (root == id) = false := beq_false_of_ne (Ne.symm h)
  simp [Reference.place, references, Reference.root, List.findIdx_cons, hne]

/-- Nothing stands before the root. -/
theorem Explored.ne_root_of_lt (h : Explored g root d) {i j : Nat} {a b : Node Float32}
    (hi : d.toList[i]? = some a) (hj : d.toList[j]? = some b) (hij : i < j) : b.id ≠ root := by
  intro hroot
  have hlt := h.place_lt hi hj hij
  rw [hroot, place_references_root] at hlt
  omega

/-- Every node but the root is a child of some node. -/
theorem Explored.exists_parent (h : Explored g root d) {i : Nat} {node : Node Float32}
    (hi : d.toList[i]? = some node) (hroot : node.id ≠ root) :
    ∃ parent ∈ d.toList, node.id ∈ parent.children := by
  obtain ⟨j, -, parent, hparent, hchild⟩ := h.earlier i node hi hroot
  exact ⟨parent, List.mem_of_getElem? hparent, hchild⟩

/-- Nodes stand in the order of their first listings. -/
theorem Explored.listing_lt (h : Explored g root d) {i j : Nat} {a b : Node Float32}
    (hi : d.toList[i]? = some a) (hj : d.toList[j]? = some b) (ha : a.id ≠ root)
    (hb : b.id ≠ root) (hij : i < j) :
    Node.listing d.toList a.id < Node.listing d.toList b.id := by
  apply Node.listing_lt_of_place_lt (h.exists_parent hi ha) (h.exists_parent hj hb)
  have hlt := h.place_lt hi hj hij
  rw [place_references_of_ne ha, place_references_of_ne hb] at hlt
  omega

/-- One node stands before another exactly if it is listed first by an earlier parent, or earlier by
the same one. -/
theorem Explored.lt_iff_listing_lt (h : Explored g root d) {i j : Nat} {a b : Node Float32}
    (hi : d.toList[i]? = some a) (hj : d.toList[j]? = some b) (ha : a.id ≠ root)
    (hb : b.id ≠ root) :
    i < j ↔ Node.listing d.toList a.id < Node.listing d.toList b.id := by
  constructor
  · exact h.listing_lt hi hj ha hb
  · intro hlisting
    rcases Nat.lt_trichotomy i j with hlt | he | hgt
    · exact hlt
    · subst he
      obtain rfl : a = b := Option.some.inj (hi.symm.trans hj)
      exact absurd hlisting (lt_irrefl _)
    · exact absurd hlisting (lt_asymm (h.listing_lt hj hi hb ha hgt))

/-- The first parent of a node stands no later than any node that lists one behind it. -/
theorem Explored.parentPlace_le_of_lt (h : Explored g root d) {i j k : Nat}
    {a b parent : Node Float32} (hi : d.toList[i]? = some a) (hj : d.toList[j]? = some b)
    (ha : a.id ≠ root) (hij : i < j) (hk : d.toList[k]? = some parent)
    (hchild : b.id ∈ parent.children) : Node.parentPlace d.toList a.id ≤ k := by
  have hlisting := h.listing_lt hi hj ha (h.ne_root_of_lt hi hj hij) hij
  have hbk := Node.parentPlace_le hk hchild
  unfold Node.listing at hlisting
  rw [Prod.Lex.toLex_lt_toLex] at hlisting
  omega

/-- What stands before an id that is reached by some references is reached by no
more.  The induction is on the number of references: the node that lists `b` last
on its chain stands no earlier than the first parent of `b`, and so no earlier
than that of `a`. -/
theorem Explored.reachesIn_before (h : Explored g root d) {n i j : Nat} {a b : Node Float32}
    (hi : d.toList[i]? = some a) (hj : d.toList[j]? = some b) (hij : i ≤ j)
    (hreach : g.ReachesIn root n b.id) : ∃ m ≤ n, g.ReachesIn root m a.id := by
  induction n generalizing i j a b with
  | zero =>
      rcases Nat.lt_or_eq_of_le hij with hlt | he
      · -- only the root is reached by no reference
        have hne := h.ne_root_of_lt hi hj hlt
        generalize b.id = id at hreach hne
        cases hreach
        exact absurd rfl hne
      · subst he
        obtain rfl : a = b := Option.some.inj (hi.symm.trans hj)
        exact ⟨0, le_refl 0, hreach⟩
  | succ n ih =>
      rcases Nat.lt_or_eq_of_le hij with hlt | he
      · by_cases ha : a.id = root
        · rw [ha]
          exact ⟨0, Nat.zero_le _, .root⟩
        · generalize hid : b.id = id at hreach
          cases hreach with
          | child hreach record listed =>
              obtain ⟨q, hq, rfl, hbq⟩ := h.exists_lister
                (h.contains_of_reachesIn hreach (by rw [record]; rfl)) record listed
              -- the first parent of a stands no later than q, so the induction goes on there
              obtain ⟨k, hk⟩ := List.mem_iff_getElem?.mp hq
              obtain ⟨other, hother, hlisted⟩ := h.exists_parent hi ha
              obtain ⟨first, -, hfirst, hchild⟩ := Node.exists_firstParent hother hlisted
              have hle := h.parentPlace_le_of_lt hi hj ha hlt hk (hid ▸ hbq)
              obtain ⟨m, hm, hreached⟩ := ih hfirst hk hle hreach
              exact ⟨m + 1, by omega,
                h.reachesIn_child (List.mem_of_getElem? hfirst) hreached hchild⟩
      · subst he
        obtain rfl : a = b := Option.some.inj (hi.symm.trans hj)
        exact ⟨n + 1, le_refl _, hreach⟩

/-- No node stands before one that is nearer to the root. -/
theorem Explored.distance_le (h : Explored g root d) {i j : Nat} {a b : Node Float32}
    (hi : d.toList[i]? = some a) (hj : d.toList[j]? = some b) (hij : i ≤ j) :
    g.distance root a.id ≤ g.distance root b.id := by
  obtain ⟨m, hm, hreached⟩ := h.reachesIn_before hi hj hij (h.reaches hj).reachesIn_distance
  exact le_trans hreached.distance_le hm

/-- A graph is built breadth first, whatever is in its records. -/
theorem breadthFirst_ofRecords (g : Records) (root : String) (journal : Journal) :
    BreadthFirst g root (ofRecords g root journal).1 := by
  have h := explored_ofRecords g root journal
  constructor
  case distinct => exact h.consistent.nodup
  case exact => exact h.exists_iff
  case found => exact fun id node => h.consistent.get?_eq_some_iff
  case children => exact fun node hnode => h.children hnode
  case distances =>
    rw [List.pairwise_iff_getElem]
    intro i j hi hj hij
    exact h.distance_le (List.getElem?_eq_getElem hi) (List.getElem?_eq_getElem hj)
      (Nat.le_of_lt hij)
  case behindParent => exact h.earlier
  case listed => exact fun i j a b hi hj ha hb => h.lt_iff_listing_lt hi hj ha hb

end NodeDictionary

end Scenery
