import Std.Data.HashMap
import Scenery.Node.Basic

/-!
# The dictionary of nodes

Nodes are kept in the order in which they are built, with an index from ids to
places.  A node is built once: one with an id that is there already is not put
in again.

`unvisited` counts the ids that are not on a path.  It falls when a path grows by
an id of the dictionary, which is why a walk that never takes an id twice on one
path ends.
-/

namespace Scenery

/-- Nodes by their ids, in the order they were built. -/
structure NodeDictionary (α : Type) where
  /-- The nodes, the first built first. -/
  nodes : Array (Node α)
  /-- The place of each id. -/
  index : Std.HashMap String Nat

namespace NodeDictionary

variable {α : Type}

/-- The dictionary without nodes. -/
def empty : NodeDictionary α := ⟨#[], ∅⟩

/-- Whether an id is there. -/
def contains (d : NodeDictionary α) (id : String) : Bool := d.index.contains id

/-- The node of an id. -/
def get? (d : NodeDictionary α) (id : String) : Option (Node α) :=
  d.index[id]?.bind fun place => d.nodes[place]?

/-- Put a node in unless its id is there, and tell whether it was put in. -/
def insert (d : NodeDictionary α) (node : Node α) : NodeDictionary α × Bool :=
  if d.contains node.id then (d, false)
  else (⟨d.nodes.push node, d.index.insert node.id d.nodes.size⟩, true)

/-- How many nodes there are. -/
def size (d : NodeDictionary α) : Nat := d.nodes.size

/-- The nodes in the order they were built. -/
def toList (d : NodeDictionary α) : List (Node α) := d.nodes.toList

/-! ## Views -/

theorem contains_insert (d : NodeDictionary α) (node : Node α) (id : String) :
    (d.insert node).1.contains id = (d.contains id || node.id == id) := by
  unfold insert
  by_cases h : d.contains node.id = true
  · simp only [h, if_true]
    by_cases hid : node.id = id
    · subst hid
      simp [h]
    · simp [hid]
  · simp only [h, Bool.false_eq_true, if_false]
    simp [contains, Bool.or_comm]

theorem contains_of_get? {d : NodeDictionary α} {id : String} {node : Node α}
    (h : d.get? id = some node) : d.contains id = true := by
  unfold get? at h
  cases hi : d.index[id]? with
  | none => rw [hi] at h; simp at h
  | some place =>
      unfold contains
      rw [Std.HashMap.contains_eq_isSome_getElem?, hi]
      rfl

/-! ## Ids off a path -/

/-- The number of members that have a property falls when one member loses it
and none gains it. -/
theorem countP_lt_countP {β : Type} {p q : β → Bool} (hqp : ∀ y, q y = true → p y = true)
    {x : β} (hp : p x = true) (hq : q x = false) :
    ∀ {l : List β}, x ∈ l → l.countP q < l.countP p
  | [], hx => by cases hx
  | y :: l, hx => by
      have hle : l.countP q ≤ l.countP p := List.countP_mono_left fun z _ => hqp z
      rw [List.countP_cons, List.countP_cons]
      cases List.mem_cons.mp hx with
      | inl he =>
          subst he
          simp only [hp, hq, if_true, Bool.false_eq_true, if_false]
          omega
      | inr hl =>
          have ih := countP_lt_countP hqp hp hq hl
          cases hy : q y with
          | true => simp only [hqp y hy, if_true]; omega
          | false => simp only [Bool.false_eq_true, if_false]; omega

/-- The number of ids that are not on a path. -/
def unvisited (d : NodeDictionary α) (path : List String) : Nat :=
  d.index.keys.countP fun id => !path.contains id

/-- A path that grows by an id of the dictionary leaves fewer ids off it. -/
theorem unvisited_lt {d : NodeDictionary α} {path : List String} {id : String}
    (h : d.contains id = true) (hp : path.contains id = false) :
    d.unvisited (id :: path) < d.unvisited path := by
  apply countP_lt_countP (x := id)
  · intro y hy
    simp only [List.contains_cons, Bool.not_or, Bool.and_eq_true] at hy
    exact hy.2
  · simp only [hp, Bool.not_false]
  · simp
  · rw [Std.HashMap.mem_keys]
    exact Std.HashMap.contains_iff_mem.mp h

end NodeDictionary

end Scenery
