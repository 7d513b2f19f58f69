import Mathlib.Data.List.Induction
import Mathlib.Data.List.Infix
import Mathlib.Data.List.Nodup
import Scenery.Node.Dictionary

/-!
# Dictionaries made by putting nodes in

A dictionary keeps its nodes in two ways, and all that is read of it by an id is
read through the index.  `Consistent` says that the two ways agree.  The empty
dictionary is consistent and putting a node in keeps it so, whatever the node.
So every dictionary that is made from a list of nodes is consistent
(`consistent_ofList`).

Putting a node in never moves or changes the nodes that are there.  So however many more are
put in, they stay in front, in their order (`toList_isPrefix_ofList_append`).  `faithful_ofList`
gathers what holds of a dictionary at any point of its making, and which node it takes next.

In a consistent dictionary the index can be forgotten.  It is there for speed
only: `get?` finds the one node of the list that has the id (`get?_eq_find?`),
and no two nodes of the list have the same id (`Consistent.nodup`).
-/

namespace Scenery

namespace NodeDictionary

variable {α : Type} {d : NodeDictionary α}

/-- The index and the nodes agree: the index knows an id at the places of the
nodes that have it, and nowhere else. -/
def Consistent (d : NodeDictionary α) : Prop :=
  ∀ (id : String) (place : Nat),
    d.index[id]? = some place ↔ ∃ node, d.nodes[place]? = some node ∧ node.id = id

/-- The dictionary of a list of nodes, put in one after another. -/
def ofList (nodes : List (Node α)) : NodeDictionary α :=
  nodes.foldl (fun d node => (d.insert node).1) empty

/-! ## Putting a node in -/

theorem toList_empty : (empty : NodeDictionary α).toList = [] := rfl

/-- A node whose id is taken is refused, and the dictionary stays as it was. -/
theorem insert_of_contains {node : Node α} (h : d.contains node.id = true) :
    d.insert node = (d, false) := by
  unfold insert
  rw [if_pos h]

/-- A node with a new id goes behind the others, and its id is entered with that place. -/
theorem insert_of_not_contains {node : Node α} (h : d.contains node.id = false) :
    d.insert node = (⟨d.nodes.push node, d.index.insert node.id d.nodes.size⟩, true) := by
  unfold insert
  rw [if_neg (by rw [h]; exact Bool.false_ne_true)]

/-- A node with a new id comes last in the list of nodes. -/
theorem toList_insert_of_not_contains {node : Node α} (h : d.contains node.id = false) :
    (d.insert node).1.toList = d.toList ++ [node] := by
  rw [insert_of_not_contains h]
  exact Array.toList_push

/-- A node is put in exactly if its id is not there. -/
theorem insert_snd (d : NodeDictionary α) (node : Node α) :
    (d.insert node).2 = !d.contains node.id := by
  cases hc : d.contains node.id with
  | true => rw [insert_of_contains hc, Bool.not_true]
  | false => rw [insert_of_not_contains hc, Bool.not_false]

/-- The nodes that are there stay where they are. -/
theorem toList_isPrefix_insert (d : NodeDictionary α) (node : Node α) :
    d.toList <+: (d.insert node).1.toList := by
  cases hc : d.contains node.id with
  | true => rw [insert_of_contains hc]
  | false =>
      rw [toList_insert_of_not_contains hc]
      exact List.prefix_append _ _

/-- The empty dictionary is consistent. -/
theorem consistent_empty : (empty : NodeDictionary α).Consistent := by
  intro id place
  simp [empty]

/-- The index has an id with a place exactly if the node there has the id. -/
theorem Consistent.index_iff (h : d.Consistent) {id : String} {place : Nat} :
    d.index[id]? = some place ↔ ∃ hlt : place < d.nodes.size, d.nodes[place].id = id := by
  rw [h id place]
  constructor
  · rintro ⟨node, hnode, hid⟩
    obtain ⟨hlt, rfl⟩ := Array.getElem?_eq_some_iff.mp hnode
    exact ⟨hlt, hid⟩
  · rintro ⟨hlt, hid⟩
    exact ⟨_, Array.getElem?_eq_getElem hlt, hid⟩

/-- The dictionary knows the ids of its nodes and no others. -/
theorem Consistent.contains_iff (h : d.Consistent) {id : String} :
    d.contains id = true ↔ ∃ node ∈ d.toList, node.id = id := by
  unfold contains
  rw [Std.HashMap.contains_eq_isSome_getElem?, Option.isSome_iff_exists]
  constructor
  · rintro ⟨place, hplace⟩
    obtain ⟨node, hnode, hid⟩ := (h id place).mp hplace
    exact ⟨node, Array.mem_toList_iff.mpr (Array.mem_of_getElem? hnode), hid⟩
  · rintro ⟨node, hmem, hid⟩
    obtain ⟨place, hplace⟩ := Array.mem_iff_getElem?.mp (Array.mem_toList_iff.mp hmem)
    exact ⟨place, (h id place).mpr ⟨node, hplace, hid⟩⟩

/-- The dictionary does not know an id exactly if no node has it. -/
theorem Consistent.contains_eq_false_iff (h : d.Consistent) {id : String} :
    d.contains id = false ↔ ∀ node ∈ d.toList, node.id ≠ id := by
  rw [← Bool.not_eq_true, h.contains_iff]
  simp

/-- A node that is put in is found. -/
theorem get?_insert_self {node : Node α} (h : d.contains node.id = false) :
    (d.insert node).1.get? node.id = some node := by
  rw [insert_of_not_contains h, get?]
  simp

/-- A node that is there stays there, whatever is put in. -/
theorem get?_insert_of_get? {node : Node α} {id : String} (h : d.get? id = some node)
    (other : Node α) : (d.insert other).1.get? id = some node := by
  cases hc : d.contains other.id with
  | true =>
      rw [insert_of_contains hc]
      exact h
  | false =>
      have hne : other.id ≠ id := by
        rintro rfl
        rw [contains_of_get? h] at hc
        cases hc
      obtain ⟨place, hplace, hnode⟩ := Option.bind_eq_some_iff.mp h
      have hlt : place ≠ d.nodes.size := by
        rintro rfl
        simp at hnode
      rw [insert_of_not_contains hc, get?]
      simp only [Std.HashMap.getElem?_insert, beq_iff_eq, if_neg hne, hplace, Option.bind_some,
        Array.getElem?_push, if_neg hlt, hnode]

/-- Putting a node in keeps a dictionary consistent, whether its id is there or
not. -/
theorem Consistent.insert (h : d.Consistent) (node : Node α) :
    (d.insert node).1.Consistent := by
  cases hc : d.contains node.id with
  | true =>
      rw [insert_of_contains hc]
      exact h
  | false =>
      intro id place
      have hnew : ∀ other, d.nodes[place]? = some other → other.id ≠ node.id := by
        intro other hother
        exact h.contains_eq_false_iff.mp hc other
          (Array.mem_toList_iff.mpr (Array.mem_of_getElem? hother))
      rw [insert_of_not_contains hc]
      simp only [Std.HashMap.getElem?_insert, Array.getElem?_push, beq_iff_eq]
      by_cases hid : node.id = id
      · rw [if_pos hid]
        subst hid
        by_cases hplace : place = d.nodes.size
        · simp [hplace]
        · rw [if_neg hplace]
          constructor
          · intro he
            exact absurd (Option.some.inj he).symm hplace
          · rintro ⟨other, hother, he⟩
            exact absurd he (hnew other hother)
      · rw [if_neg hid]
        by_cases hplace : place = d.nodes.size
        · subst hplace
          -- the place behind the last node is not in the index yet
          have hnone : d.index[id]? ≠ some d.nodes.size := by
            intro hsome
            obtain ⟨hlt, -⟩ := h.index_iff.mp hsome
            exact Nat.lt_irrefl _ hlt
          simp [hnone, hid]
        · rw [if_neg hplace]
          exact h id place

/-! ## Reading a consistent dictionary -/

/-- No two nodes have the same id. -/
theorem Consistent.nodup (h : d.Consistent) : (d.toList.map Node.id).Nodup := by
  rw [List.nodup_iff_getElem?_ne_getElem?]
  intro i j hij hj he
  simp only [List.length_map] at hj
  obtain ⟨b, hb⟩ : ∃ b, d.toList[j]? = some b := ⟨_, List.getElem?_eq_getElem hj⟩
  obtain ⟨a, ha⟩ : ∃ a, d.toList[i]? = some a := ⟨_, List.getElem?_eq_getElem (by omega)⟩
  simp only [List.getElem?_map, ha, hb, Option.map_some, Option.some.injEq] at he
  have hi : d.index[b.id]? = some i :=
    (h b.id i).mpr ⟨a, by rw [← Array.getElem?_toList]; exact ha, he⟩
  have hj : d.index[b.id]? = some j :=
    (h b.id j).mpr ⟨b, by rw [← Array.getElem?_toList]; exact hb, rfl⟩
  rw [hi] at hj
  exact absurd (Option.some.inj hj) (by omega)

/-- What is found under an id is the node that has it. -/
theorem Consistent.get?_eq_some_iff (h : d.Consistent) {id : String} {node : Node α} :
    d.get? id = some node ↔ node ∈ d.toList ∧ node.id = id := by
  unfold get?
  rw [Option.bind_eq_some_iff]
  constructor
  · rintro ⟨place, hplace, hnode⟩
    obtain ⟨other, hother, hid⟩ := (h id place).mp hplace
    obtain rfl : node = other := Option.some.inj (hnode.symm.trans hother)
    exact ⟨Array.mem_toList_iff.mpr (Array.mem_of_getElem? hnode), hid⟩
  · rintro ⟨hmem, hid⟩
    obtain ⟨place, hplace⟩ := Array.mem_iff_getElem?.mp (Array.mem_toList_iff.mp hmem)
    exact ⟨place, (h id place).mpr ⟨node, hplace, hid⟩, hplace⟩

/-- A look-up reads the nodes where there is one. -/
theorem Consistent.get?_eq_getElem (h : d.Consistent) {id : String} {place : Nat}
    (hplace : d.index[id]? = some place) :
    ∃ hlt : place < d.nodes.size, d.get? id = some d.nodes[place] := by
  obtain ⟨hlt, -⟩ := h.index_iff.mp hplace
  exact ⟨hlt, by rw [get?, hplace, Option.bind_some, Array.getElem?_eq_getElem hlt]⟩

/-- The index is there for speed only. -/
theorem Consistent.get?_eq_find? (h : d.Consistent) (id : String) :
    d.get? id = d.toList.find? fun node => node.id == id := by
  cases hf : d.toList.find? fun node => node.id == id with
  | none =>
      rw [Option.eq_none_iff_forall_ne_some]
      intro node hnode
      obtain ⟨hmem, hid⟩ := h.get?_eq_some_iff.mp hnode
      exact List.find?_eq_none.mp hf node hmem (beq_iff_eq.mpr hid)
  | some node =>
      have hid := List.find?_some hf
      exact h.get?_eq_some_iff.mpr ⟨List.mem_of_find?_eq_some hf, beq_iff_eq.mp hid⟩

/-- An id that is known finds a node. -/
theorem Consistent.contains_iff_get? (h : d.Consistent) {id : String} :
    d.contains id = true ↔ ∃ node, d.get? id = some node := by
  rw [h.contains_iff]
  simp only [h.get?_eq_some_iff]

/-- Nothing is found exactly under the ids that are not known. -/
theorem Consistent.get?_eq_none_iff (h : d.Consistent) {id : String} :
    d.get? id = none ↔ d.contains id = false := by
  rw [← Bool.not_eq_true, h.contains_iff_get?, Option.eq_none_iff_forall_ne_some, not_exists]

/-! ## Dictionaries of lists -/

/-- One more node is put in after the others. -/
theorem ofList_append_singleton (nodes : List (Node α)) (node : Node α) :
    ofList (nodes ++ [node]) = ((ofList nodes).insert node).1 := by
  unfold ofList
  rw [List.foldl_append]
  rfl

/-- Whatever nodes are put in, the index and the nodes agree. -/
theorem consistent_ofList (nodes : List (Node α)) : (ofList nodes).Consistent := by
  induction nodes using List.reverseRecOn with
  | nil => exact consistent_empty
  | append_singleton nodes node ih =>
      rw [ofList_append_singleton]
      exact ih.insert node

/-- Of several nodes with one id the first is kept. -/
theorem find?_ofList (nodes : List (Node α)) (id : String) :
    ((ofList nodes).toList.find? fun node => node.id == id) =
      nodes.find? fun node => node.id == id := by
  induction nodes using List.reverseRecOn with
  | nil => rfl
  | append_singleton nodes node ih =>
      rw [ofList_append_singleton, List.find?_append]
      cases hc : (ofList nodes).contains node.id with
      | false => rw [toList_insert_of_not_contains hc, List.find?_append, ih]
      | true =>
          rw [insert_of_contains hc]
          obtain ⟨other, hother, hid⟩ := (consistent_ofList nodes).contains_iff.mp hc
          by_cases he : node.id = id
          · -- the other node with this id comes first on both sides
            have hsome : ((ofList nodes).toList.find? fun n => n.id == id).isSome = true := by
              rw [List.find?_isSome]
              exact ⟨other, hother, beq_iff_eq.mpr (hid.trans he)⟩
            rw [ih] at hsome ⊢
            rw [Option.or_of_isSome hsome]
          · rw [ih, List.find?_singleton, if_neg (by simpa using he), Option.or_none]

/-- The node of an id is the first one with it that was put in. -/
theorem get?_ofList (nodes : List (Node α)) (id : String) :
    (ofList nodes).get? id = nodes.find? fun node => node.id == id := by
  rw [(consistent_ofList nodes).get?_eq_find?, find?_ofList]

/-- The ids that are known are those of the nodes that were offered, also of refused ones. -/
theorem contains_ofList {nodes : List (Node α)} {id : String} :
    (ofList nodes).contains id = true ↔ ∃ node ∈ nodes, node.id = id := by
  simp only [(consistent_ofList nodes).contains_iff_get?, get?_ofList, ← Option.isSome_iff_exists,
    List.find?_isSome, beq_iff_eq]

/-- Of the nodes that are put in later none goes before or between those that are there. -/
theorem toList_isPrefix_ofList_append (nodes later : List (Node α)) :
    (ofList nodes).toList <+: (ofList (nodes ++ later)).toList := by
  induction later using List.reverseRecOn with
  | nil => rw [List.append_nil]
  | append_singleton later node ih =>
      rw [← List.append_assoc, ofList_append_singleton]
      exact ih.trans (toList_isPrefix_insert _ node)

/-- What a dictionary is that nodes were put in, one after another, and what becomes of the
next. -/
structure Faithful (nodes : List (Node α)) (d : NodeDictionary α) : Prop where
  /-- The index knows an id at the place of the node that has it, and nowhere else. -/
  index_iff : ∀ (id : String) (place : Nat),
    d.index[id]? = some place ↔ ∃ h : place < d.nodes.size, d.nodes[place].id = id
  /-- No two nodes have the same id. -/
  distinct : (d.toList.map Node.id).Nodup
  /-- Looking up an id reads the nodes at the place the index gives, and there is one. -/
  reads : ∀ (id : String) (place : Nat), d.index[id]? = some place →
    ∃ h : place < d.nodes.size, d.get? id = some d.nodes[place]
  /-- The node of an id is the first one with it that was put in. -/
  first : ∀ id, d.get? id = nodes.find? fun node => node.id == id
  /-- The next node is put in exactly if none before it had its id. -/
  taken_iff : ∀ node, (d.insert node).2 = true ↔ ∀ earlier ∈ nodes, earlier.id ≠ node.id
  /-- Then it goes behind the others. -/
  taken : ∀ node, (d.insert node).2 = true → (d.insert node).1.nodes = d.nodes.push node
  /-- Otherwise nothing changes. -/
  refused : ∀ node, (d.insert node).2 = false → (d.insert node).1 = d
  /-- Whatever is put in later, the nodes stay as they are and where they are. -/
  kept : ∀ later, d.toList <+: (ofList (nodes ++ later)).toList

/-- Whatever nodes are put in, in whatever order and with whatever ids, the dictionary keeps the
first of each id, in its place. -/
theorem faithful_ofList (nodes : List (Node α)) : Faithful nodes (ofList nodes) := by
  have h := consistent_ofList nodes
  have hrefused (node : Node α) :
      ((ofList nodes).insert node).2 = false ↔ (ofList nodes).contains node.id = true := by
    rw [insert_snd, Bool.not_eq_false']
  have htaken (node : Node α) :
      ((ofList nodes).insert node).2 = true ↔ (ofList nodes).contains node.id = false := by
    rw [insert_snd, Bool.not_eq_true']
  exact
    { index_iff := fun _ _ => h.index_iff
      distinct := h.nodup
      reads := fun _ _ => h.get?_eq_getElem
      first := get?_ofList nodes
      taken_iff := fun node => by
        rw [htaken, ← Bool.not_eq_true, contains_ofList]
        simp only [not_exists, not_and, ne_eq]
      taken := fun node hnode => by rw [insert_of_not_contains ((htaken node).mp hnode)]
      refused := fun node hnode => by rw [insert_of_contains ((hrefused node).mp hnode)]
      kept := toList_isPrefix_ofList_append nodes }

end NodeDictionary

end Scenery
