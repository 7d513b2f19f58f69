import Scenery.Proofs.Node.BreadthFirst

/-!
# Where shadow flags come from

A record may leave out its shadow flags, and then they come down from above.  A
node may be listed by many nodes, and several references to it, with different
flags, may wait at the same time.  `Inherits` says which of them counts: that of
the first parent, and no other.

So what a node has for a flag can be read off the records on one line, which
goes from the node to its first parent, to the first parent of that, and so on up
to the root (`FirstLine`).  The first record of this line that declares the flag
decides, and without one the flag is off.
-/

namespace Scenery

/-- One of the two shadow flags. -/
inductive ShadowFlag where
  /-- Whether a node casts shadows. -/
  | cast
  /-- Whether shadows fall on a node. -/
  | receive

namespace ShadowFlag

/-- The flag of a node. -/
def ofNode {α : Type} : ShadowFlag → Node α → Bool
  | cast, node => node.castShadows
  | receive, node => node.receiveShadows

/-- The flag a record declares. -/
def ofRecord : ShadowFlag → NodeRecord → Option Bool
  | cast, r => r.castShadows
  | receive, r => r.receiveShadows

/-- The flag that comes down with a reference. -/
def ofReference : ShadowFlag → Reference → Bool
  | cast, ref => ref.castShadows
  | receive, ref => ref.receiveShadows

theorem ofReference_root (flag : ShadowFlag) (root : String) :
    flag.ofReference (.root root) = false := by
  cases flag <;> rfl

/-- A node has the flag of its record, or else that of the reference to it. -/
theorem ofNode_node (flag : ShadowFlag) (r : NodeRecord) (ref : Reference) :
    flag.ofNode (r.node ref) = (flag.ofRecord r).getD (flag.ofReference ref) := by
  cases flag <;> rfl

end ShadowFlag

/-! ## First references -/

/-- The reference of a node to one of its children. -/
def Node.reference {α : Type} (parent : Node α) (id : String) : Reference :=
  ⟨id, parent.castShadows, parent.receiveShadows⟩

theorem ShadowFlag.ofReference_reference {α : Type} (flag : ShadowFlag) (parent : Node α)
    (id : String) : flag.ofReference (parent.reference id) = flag.ofNode parent := by
  cases flag <;> rfl

/-- Of the references of several nodes, the first one to an id is that of the
first parent. -/
theorem Node.first?_references {α : Type} (nodes : List (Node α)) (id : String) :
    Reference.first? (nodes.flatMap Node.references) id =
      (Node.firstParent? nodes id).map fun parent => parent.reference id := by
  induction nodes with
  | nil => rfl
  | cons parent rest ih =>
      unfold Reference.first? Node.firstParent? at ih ⊢
      have hown : (parent.references.find? fun ref => ref.id == id) =
          if id ∈ parent.children then some (parent.reference id) else none := by
        unfold Node.references
        rw [List.find?_map]
        split
        next h =>
          cases hfind : parent.children.find? fun child => child == id with
          | none =>
              have hnone := List.find?_eq_none.mp hfind id h
              simp at hnone
          | some child =>
              have hid := List.find?_some hfind
              obtain rfl : child = id := beq_iff_eq.mp hid
              exact congrArg (Option.map _) hfind
        next h =>
          rw [Option.map_eq_none_iff, List.find?_eq_none]
          intro child hchild
          simpa using fun he : child = id => h (he ▸ hchild)
      rw [List.flatMap_cons, List.find?_append, hown, List.find?_cons]
      by_cases h : id ∈ parent.children
      · simp [h]
      · simp [h, ih]

namespace NodeDictionary

variable {g : Records} {root : String} {d : NodeDictionary Float32}

/-- The first reference to a node that is not the root. -/
theorem first?_references_of_ne {id : String} (h : id ≠ root) :
    Reference.first? (d.references root) id =
      (Node.firstParent? d.toList id).map fun parent => parent.reference id := by
  rw [← Node.first?_references]
  have hne : (root == id) = false := beq_false_of_ne (Ne.symm h)
  simp [Reference.first?, references, Reference.root, hne]

theorem first?_references_root :
    Reference.first? (d.references root) root = some (.root root) := by
  simp [Reference.first?, references, Reference.root]

/-! ## What flags are inherited -/

/-- The ids from a node up to the root, each the first parent of the one before. -/
inductive FirstLine (d : NodeDictionary Float32) (root : String) : String → List String → Prop where
  /-- The line of the root ends at once. -/
  | root : FirstLine d root root [root]
  /-- Any other line goes on with the line of the first parent. -/
  | parent {id : String} {first : Node Float32} {line : List String} (other : id ≠ root)
      (found : Node.firstParent? d.toList id = some first)
      (above : FirstLine d root first.id line) : FirstLine d root id (id :: line)

/-- A flag of the nodes of a dictionary is declared, or comes down from first
parents. -/
structure Inherits (flag : ShadowFlag) (g : Records) (root : String)
    (d : NodeDictionary Float32) : Prop where
  /-- The flag of the root is what its record declares, and off otherwise. -/
  atRoot : ∀ node ∈ d.toList, node.id = root → ∃ r, g.decoded? root = some r ∧
    flag.ofNode node = (flag.ofRecord r).getD false
  /-- The flag of any other node is what its record declares, and otherwise that
  of the first node that lists it, which stands before it. -/
  belowRoot : ∀ (j : Nat) (node : Node Float32), d.toList[j]? = some node → node.id ≠ root →
    ∃ (i : Nat) (parent : Node Float32) (r : NodeRecord),
      d.toList[i]? = some parent ∧ node.id ∈ parent.children ∧
      (∀ k < i, ∀ other, d.toList[k]? = some other → node.id ∉ other.children) ∧
      i < j ∧ g.decoded? node.id = some r ∧
      flag.ofNode node = (flag.ofRecord r).getD (flag.ofNode parent)
  /-- So the first record of the line of first parents that declares the flag
  decides. -/
  alongLine : ∀ node ∈ d.toList, ∃ line, FirstLine d root node.id line ∧
    flag.ofNode node =
      (line.findSome? fun id => (g.decoded? id).bind flag.ofRecord).getD false

theorem Explored.ofNode_root (h : Explored g root d) (flag : ShadowFlag) {node : Node Float32}
    (hn : node ∈ d.toList) (hroot : node.id = root) :
    ∃ r, g.decoded? root = some r ∧ flag.ofNode node = (flag.ofRecord r).getD false := by
  obtain ⟨ref, r, hfirst, hr, hbuilt⟩ := h.built node hn
  rw [hroot] at hfirst hr
  obtain rfl : .root root = ref := Option.some.inj (first?_references_root.symm.trans hfirst)
  refine ⟨r, hr, ?_⟩
  rw [hbuilt, flag.ofNode_node, flag.ofReference_root]

theorem Explored.ofNode_child (h : Explored g root d) (flag : ShadowFlag)
    {node first : Node Float32} (hn : node ∈ d.toList) (hroot : node.id ≠ root)
    (hfound : Node.firstParent? d.toList node.id = some first) :
    ∃ r, g.decoded? node.id = some r ∧
      flag.ofNode node = (flag.ofRecord r).getD (flag.ofNode first) := by
  obtain ⟨ref, r, hfirst, hr, hbuilt⟩ := h.built node hn
  rw [first?_references_of_ne hroot, hfound] at hfirst
  obtain rfl : first.reference node.id = ref := Option.some.inj hfirst
  refine ⟨r, hr, ?_⟩
  conv => lhs; rw [hbuilt]
  rw [flag.ofNode_node, flag.ofReference_reference]

/-- The first parent of a node stands before it. -/
theorem Explored.exists_firstParent_before (h : Explored g root d) {j : Nat}
    {node : Node Float32} (hj : d.toList[j]? = some node) (hroot : node.id ≠ root) :
    ∃ i < j, ∃ first, d.toList[i]? = some first ∧
      Node.firstParent? d.toList node.id = some first ∧ node.id ∈ first.children ∧
      ∀ k < i, ∀ other, d.toList[k]? = some other → node.id ∉ other.children := by
  obtain ⟨i, hij, parent, hparent, hchild⟩ := h.earlier j node hj hroot
  obtain ⟨first, hfound, hplace, hlisted⟩ :=
    Node.exists_firstParent (List.mem_of_getElem? hparent) hchild
  have hle := Node.parentPlace_le hparent hchild
  refine ⟨Node.parentPlace d.toList node.id, by omega, first, hplace, hfound, hlisted, ?_⟩
  intro k hk other hother hmem
  have hkle := Node.parentPlace_le hother hmem
  omega

/-- The records on the line of first parents decide, by induction on the place of
the node. -/
theorem Explored.exists_firstLine (h : Explored g root d) (flag : ShadowFlag) {j : Nat}
    {node : Node Float32} (hj : d.toList[j]? = some node) :
    ∃ line, FirstLine d root node.id line ∧ flag.ofNode node =
      (line.findSome? fun id => (g.decoded? id).bind flag.ofRecord).getD false := by
  induction j using Nat.strong_induction_on generalizing node with
  | _ j ih =>
      have hmem := List.mem_of_getElem? hj
      by_cases hroot : node.id = root
      · obtain ⟨r, hr, hflag⟩ := h.ofNode_root flag hmem hroot
        rw [hroot]
        refine ⟨[root], .root, ?_⟩
        rw [hflag, List.findSome?_cons, hr]
        cases hdeclared : flag.ofRecord r <;> simp [hdeclared]
      · obtain ⟨i, hij, first, hfirst, hfound, -, -⟩ := h.exists_firstParent_before hj hroot
        obtain ⟨r, hr, hflag⟩ := h.ofNode_child flag hmem hroot hfound
        obtain ⟨line, hline, habove⟩ := ih i hij hfirst
        refine ⟨node.id :: line, .parent hroot hfound hline, ?_⟩
        rw [hflag, List.findSome?_cons, hr, habove]
        cases hdeclared : flag.ofRecord r <;> simp [hdeclared]

/-- Each of the shadow flags comes down from first parents, whatever is in the
records of a graph. -/
theorem inherits_ofRecords (flag : ShadowFlag) (g : Records) (root : String)
    (journal : Journal) : Inherits flag g root (ofRecords g root journal).1 := by
  have h := explored_ofRecords g root journal
  constructor
  case atRoot => exact fun node hnode hroot => h.ofNode_root flag hnode hroot
  case belowRoot =>
    intro j node hj hroot
    obtain ⟨i, hij, first, hfirst, hfound, hlisted, hnone⟩ := h.exists_firstParent_before hj hroot
    obtain ⟨r, hr, hflag⟩ := h.ofNode_child flag (List.mem_of_getElem? hj) hroot hfound
    exact ⟨i, first, r, hfirst, hlisted, hnone, hij, hr, hflag⟩
  case alongLine =>
    intro node hnode
    obtain ⟨j, hj⟩ := List.mem_iff_getElem?.mp hnode
    exact h.exists_firstLine flag hj

end NodeDictionary

end Scenery
