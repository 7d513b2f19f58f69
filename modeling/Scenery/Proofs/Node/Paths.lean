import Mathlib.Data.List.Chain
import Scenery.Proofs.Node.Dictionary

/-!
# Simple paths

A dictionary is a graph: a node leads to the ids it lists as children, as far as
they are nodes themselves.  A simple path (`SimplePath`) is a way through this graph
from a root that holds no id twice.  There may be cycles in the graph, so there may
be ways of any length, but a simple path has no more ids than there are nodes
(`SimplePath.length_le`).

A walk that keeps to simple paths knows the ids on its path and the children it may
go on to.  `Continues` says which ids can follow from there, one after another.  From
a root alone, what follows are the simple paths (`continues_root_iff`).

`Reaches` and `Way` do not care for ids that come twice.  It makes no difference which
nodes are come to: where a way comes back to an id, all since then can be cut out
(`reaches_iff_exists_simplePath`).
-/

namespace Scenery

namespace NodeDictionary

variable {α : Type} {d : NodeDictionary α}

/-- A node of the dictionary lists an id as a child. -/
def Lists (d : NodeDictionary α) (parent child : String) : Prop :=
  ∃ node, d.get? parent = some node ∧ child ∈ node.children

/-- A way from a root through the dictionary that holds no id twice. -/
structure SimplePath (d : NodeDictionary α) (root : String) (way : List String) : Prop where
  /-- It starts at the root. -/
  starts : way.head? = some root
  /-- It goes through nodes of the dictionary. -/
  held : ∀ id ∈ way, d.contains id = true
  /-- Each is listed by the one before. -/
  linked : way.IsChain d.Lists
  /-- No two are the same. -/
  distinct : way.Nodup

/-- Ids that can follow one another after a path, the first one from a list of
children. -/
def Continues (d : NodeDictionary α) (path children : List String) : List String → Prop
  | [] => True
  | id :: rest =>
      id ∈ children ∧ id ∉ path ∧
        ∃ node, d.get? id = some node ∧ d.Continues (id :: path) node.children rest

/-- A child that is no node or on the path continues nothing. -/
theorem continues_cons_of_skipped {path ids : List String} {id next : String}
    {rest : List String} (hskip : d.get? id = none ∨ id ∈ path) :
    d.Continues path (id :: ids) (next :: rest) ↔ d.Continues path ids (next :: rest) := by
  constructor
  · rintro ⟨hchild, hoff, node, found, hrest⟩
    refine ⟨?_, hoff, node, found, hrest⟩
    rcases List.mem_cons.mp hchild with rfl | hchild
    · rcases hskip with missing | hmem
      · rw [missing] at found
        cases found
      · exact absurd hmem hoff
    · exact hchild
  · rintro ⟨hchild, hrest⟩
    exact ⟨List.mem_cons_of_mem _ hchild, hrest⟩

/-- Any other child does, and so does what continues the path through it. -/
theorem continues_cons_of_found {path ids : List String} {id next : String}
    {rest : List String} {node : Node α} (found : d.get? id = some node) (off : id ∉ path) :
    d.Continues path (id :: ids) (next :: rest) ↔
      (next = id ∧ d.Continues (id :: path) node.children rest) ∨
        d.Continues path ids (next :: rest) := by
  constructor
  · rintro ⟨hchild, hoff, other, hother, hrest⟩
    rcases List.mem_cons.mp hchild with rfl | hchild
    · obtain rfl : node = other := Option.some.inj (found.symm.trans hother)
      exact Or.inl ⟨rfl, hrest⟩
    · exact Or.inr ⟨hchild, hoff, other, hother, hrest⟩
  · rintro (⟨rfl, hrest⟩ | ⟨hchild, hrest⟩)
    · exact ⟨List.mem_cons_self .., off, node, found, hrest⟩
    · exact ⟨List.mem_cons_of_mem _ hchild, hrest⟩

/-- What continues a path is a chain of nodes off the path, none twice. -/
theorem continues_iff {last : String} {node : Node α} (found : d.get? last = some node) :
    ∀ {path rest : List String}, d.Continues path node.children rest ↔
      (last :: rest).IsChain d.Lists ∧ rest.Nodup ∧ (∀ id ∈ rest, id ∉ path) ∧
        ∀ id ∈ rest, ∃ other, d.get? id = some other
  | path, [] => by simp [Continues]
  | path, id :: rest => by
      have hlists : d.Lists last id ↔ id ∈ node.children := by
        simp [Lists, found]
      constructor
      · rintro ⟨hchild, hoff, other, hother, hrest⟩
        obtain ⟨hchain, hnodup, hfresh, hheld⟩ := (continues_iff hother).mp hrest
        refine ⟨List.isChain_cons_cons.mpr ⟨hlists.mpr hchild, hchain⟩, ?_, ?_, ?_⟩
        · refine List.nodup_cons.mpr ⟨fun hmem => ?_, hnodup⟩
          exact hfresh id hmem (List.mem_cons_self ..)
        · rintro x hx
          rcases List.mem_cons.mp hx with rfl | hx
          · exact hoff
          · exact fun hpath => hfresh x hx (List.mem_cons_of_mem _ hpath)
        · rintro x hx
          rcases List.mem_cons.mp hx with rfl | hx
          · exact ⟨other, hother⟩
          · exact hheld x hx
      · rintro ⟨hchain, hnodup, hfresh, hheld⟩
        obtain ⟨hlink, hchain⟩ := List.isChain_cons_cons.mp hchain
        obtain ⟨hnew, hnodup⟩ := List.nodup_cons.mp hnodup
        obtain ⟨other, hother⟩ := hheld id (List.mem_cons_self ..)
        refine ⟨hlists.mp hlink, hfresh id (List.mem_cons_self ..), other, hother, ?_⟩
        refine (continues_iff hother).mpr ⟨hchain, hnodup, ?_, ?_⟩
        · intro x hx hpath
          rcases List.mem_cons.mp hpath with rfl | hpath
          · exact hnew hx
          · exact hfresh x (List.mem_cons_of_mem _ hx) hpath
        · exact fun x hx => hheld x (List.mem_cons_of_mem _ hx)

/-- The ways that continue nothing from a root are the simple paths. -/
theorem continues_root_iff (h : d.Consistent) {root : String} {way : List String} :
    (way ≠ [] ∧ d.Continues [] [root] way) ↔ d.SimplePath root way := by
  constructor
  · rintro ⟨hne, hway⟩
    cases way with
    | nil => exact absurd rfl hne
    | cons first rest =>
        obtain ⟨hfirst, -, node, found, hrest⟩ := hway
        obtain rfl : first = root := List.mem_singleton.mp hfirst
        obtain ⟨hchain, hnodup, hfresh, hheld⟩ := (continues_iff found).mp hrest
        refine ⟨rfl, ?_, hchain, ?_⟩
        · intro id hid
          rw [h.contains_iff_get?]
          rcases List.mem_cons.mp hid with rfl | hid
          · exact ⟨node, found⟩
          · exact hheld id hid
        · refine List.nodup_cons.mpr ⟨fun hmem => ?_, hnodup⟩
          exact hfresh first hmem (List.mem_cons_self ..)
  · rintro ⟨hstart, hheld, hchain, hnodup⟩
    cases way with
    | nil => cases hstart
    | cons first rest =>
        obtain rfl : first = root := Option.some.inj hstart
        obtain ⟨hnew, hnodup⟩ := List.nodup_cons.mp hnodup
        obtain ⟨node, found⟩ := h.contains_iff_get?.mp (hheld first (List.mem_cons_self ..))
        refine ⟨List.cons_ne_nil _ _, List.mem_singleton_self _, List.not_mem_nil, node, found, ?_⟩
        refine (continues_iff found).mpr ⟨hchain, hnodup, ?_, ?_⟩
        · intro id hid hmem
          rw [List.mem_singleton.mp hmem] at hid
          exact hnew hid
        · exact fun id hid => h.contains_iff_get?.mp (hheld id (List.mem_cons_of_mem _ hid))

/-- A simple path has at most as many ids as there are nodes. -/
theorem SimplePath.length_le (h : d.Consistent) {root : String} {way : List String}
    (hway : d.SimplePath root way) : way.length ≤ d.size := by
  have hsubset : way ⊆ d.toList.map Node.id := by
    intro id hid
    obtain ⟨node, hmem, he⟩ := h.contains_iff.mp (hway.held id hid)
    exact List.mem_map.mpr ⟨node, hmem, he⟩
  calc
    way.length ≤ (d.toList.map Node.id).length := hway.distinct.length_le_of_subset hsubset
    _ = d.size := by rw [List.length_map]; rfl

/-! ## Ids that are come to -/

/-- An id that nodes lead to from a root, in whatever way. -/
inductive Reaches (d : NodeDictionary α) (root : String) : String → Prop where
  /-- The root, if it is a node. -/
  | root (held : d.contains root = true) : Reaches d root root
  /-- A node that is listed by one that is come to. -/
  | child {id child : String} (above : Reaches d root id) (listed : d.Lists id child)
      (held : d.contains child = true) : Reaches d root child

theorem Reaches.held {root id : String} (h : d.Reaches root id) : d.contains id = true := by
  cases h with
  | root held => exact held
  | child _ _ held => exact held

/-- A way from a root through the dictionary, which may come back to an id. -/
structure Way (d : NodeDictionary α) (root : String) (way : List String) : Prop where
  /-- It starts at the root. -/
  starts : way.head? = some root
  /-- It goes through nodes of the dictionary. -/
  held : ∀ id ∈ way, d.contains id = true
  /-- Each is listed by the one before. -/
  linked : way.IsChain d.Lists

theorem SimplePath.way {root : String} {way : List String} (h : d.SimplePath root way) :
    d.Way root way := ⟨h.starts, h.held, h.linked⟩

theorem Way.simplePath {root : String} {way : List String} (h : d.Way root way)
    (distinct : way.Nodup) : d.SimplePath root way := ⟨h.starts, h.held, h.linked, distinct⟩

theorem Way.singleton {root : String} (held : d.contains root = true) : d.Way root [root] where
  starts := rfl
  held := fun _ hid => List.mem_singleton.mp hid ▸ held
  linked := List.isChain_singleton _

/-- Each part of a way that starts at the root is one too. -/
theorem Way.left_of_append {root : String} {before after : List String}
    (h : d.Way root (before ++ after)) (hne : before ≠ []) : d.Way root before where
  starts := by rw [← List.head?_append_of_ne_nil before hne]; exact h.starts
  held := fun id hid => h.held id (List.mem_append_left _ hid)
  linked := h.linked.left_of_append

/-- A way goes on to any node that its last one lists. -/
theorem Way.concat {root last child : String} {way : List String} (h : d.Way root way)
    (hlast : way.getLast? = some last) (listed : d.Lists last child)
    (held : d.contains child = true) : d.Way root (way ++ [child]) where
  starts := by rw [List.head?_append, h.starts, Option.some_or]
  held := by
    intro id hid
    rcases List.mem_append.mp hid with hid | hid
    · exact h.held id hid
    · rw [List.mem_singleton.mp hid]
      exact held
  linked := by
    rw [List.isChain_append]
    refine ⟨h.linked, List.isChain_singleton _, ?_⟩
    intro x hx y hy
    obtain rfl : last = x := Option.some.inj (hlast.symm.trans hx)
    obtain rfl : child = y := Option.some.inj hy
    exact listed

/-- A way is the root alone, or goes on from another way to a node that the last one lists. -/
theorem Way.cases_concat {root last : String} {before : List String}
    (h : d.Way root (before ++ [last])) :
    before = [] ∧ last = root ∨
      ∃ above, d.Way root before ∧ before.getLast? = some above ∧ d.Lists above last := by
  cases hbefore : before.getLast? with
  | none =>
      obtain rfl := List.getLast?_eq_none_iff.mp hbefore
      exact Or.inl ⟨rfl, Option.some.inj h.starts⟩
  | some above =>
      have hne : before ≠ [] := by rintro rfl; cases hbefore
      exact Or.inr ⟨above, h.left_of_append hne, rfl,
        (List.isChain_append.mp h.linked).2.2 above hbefore last rfl⟩

/-- Each part of a simple path that starts at the root is one too. -/
theorem SimplePath.left_of_append {root : String} {before after : List String}
    (h : d.SimplePath root (before ++ after)) (hne : before ≠ []) : d.SimplePath root before :=
  (h.way.left_of_append hne).simplePath h.distinct.of_append_left

/-- A simple path goes on to any node that its last one lists and that it has not come to. -/
theorem SimplePath.concat {root last child : String} {way : List String}
    (h : d.SimplePath root way) (hlast : way.getLast? = some last) (listed : d.Lists last child)
    (held : d.contains child = true) (hnew : child ∉ way) : d.SimplePath root (way ++ [child]) := by
  refine (h.way.concat hlast listed held).simplePath ?_
  rw [← List.concat_eq_append]
  exact h.distinct.concat hnew

/-- The end of a way is come to. -/
theorem Way.reaches {root : String} :
    ∀ {way : List String}, d.Way root way → ∀ {id : String}, way.getLast? = some id →
      d.Reaches root id := by
  intro way
  induction way using List.reverseRecOn with
  | nil => intro h; cases h.starts
  | append_singleton before last ih =>
      intro h id hid
      obtain rfl : last = id := by simpa using hid
      have hheld : d.contains last = true := h.held last (by simp)
      rcases h.cases_concat with ⟨-, rfl⟩ | ⟨above, hbefore, hlast, hlisted⟩
      · exact .root hheld
      · exact .child (ih hbefore hlast) hlisted hheld

theorem SimplePath.reaches {root id : String} {way : List String} (h : d.SimplePath root way)
    (hid : way.getLast? = some id) : d.Reaches root id := h.way.reaches hid

/-- What is come to at all is come to without taking an id twice: a way that comes back to an
id is cut off there. -/
theorem Reaches.exists_simplePath {root id : String} (h : d.Reaches root id) :
    ∃ way, d.SimplePath root way ∧ way.getLast? = some id := by
  induction h with
  | root held => exact ⟨[root], (Way.singleton held).simplePath (List.nodup_singleton _), rfl⟩
  | @child id child _ listed held ih =>
      obtain ⟨way, hway, hlast⟩ := ih
      by_cases hmem : child ∈ way
      · obtain ⟨before, after, rfl⟩ := List.append_of_mem hmem
        rw [List.append_cons] at hway
        exact ⟨before ++ [child], hway.left_of_append (by simp), List.getLast?_concat ..⟩
      · exact ⟨way ++ [child], hway.concat hlast listed held hmem, List.getLast?_concat ..⟩

theorem reaches_iff_exists_simplePath {root id : String} :
    d.Reaches root id ↔ ∃ way, d.SimplePath root way ∧ way.getLast? = some id := by
  constructor
  · exact Reaches.exists_simplePath
  · rintro ⟨way, hway, hlast⟩
    exact hway.reaches hlast

end NodeDictionary

end Scenery
