import Scenery.Proofs.Scene.History
import Scenery.Proofs.Scene.Shelves

/-!
# The trail of a walk

The walk of a pass is given the ids on the way down to where it is.  A walker keeps them
itself, in a trail that is part of its state: it puts the id of a node on the trail when it
enters the node and takes it off when it leaves (`Catalog.enter`).  Nothing says so far that it
finds its way back, or ends at all, so it is told how many levels it may go through.

It does both, since the trail is what it was whenever a walker leaves
(`Catalog.enterAll_of_belowIn`).  So it goes where a walk with two shelves goes that is given
the way, and hence where a pass goes, and a level for each node is enough.  This carries over
to a walker that is called several times, for scenes and for trees
(`Catalog.orderly_after_calls`).
-/

namespace Scenery

/-- The state of a walker. -/
structure Walker (α : Type) where
  /-- The figures it has built, and what came up. -/
  shelves : Shelves α
  /-- The ids from where it is up to the root. -/
  trail : List String

namespace Walker

variable {α : Type}

/-- A walker that was not called yet. -/
def fresh : Walker α := ⟨.clear .empty, []⟩

/-- Tell a problem once. -/
def tell (s : Walker α) (d : Diagnostic) : Walker α := { s with shelves := s.shelves.tell d }

/-- The journal goes to who has called. -/
def handOver (s : Walker α) : Walker α := { s with shelves := { s.shelves with journal := .empty } }

end Walker

/-! ## How far down there is to go -/

/-- There are no more ids off a path than there are nodes. -/
theorem NodeDictionary.Consistent.unvisited_le_size {α : Type} {d : NodeDictionary α}
    (h : d.Consistent) (path : List String) : d.unvisited path ≤ d.size := by
  have hnodup : d.index.keys.Nodup := d.index.distinct_keys.imp fun hne => by simpa using hne
  have hsub : d.index.keys ⊆ d.toList.map Node.id := by
    intro id hid
    rw [Std.HashMap.mem_keys, ← Std.HashMap.contains_iff_mem] at hid
    obtain ⟨node, hnode, rfl⟩ := h.contains_iff.mp hid
    exact List.mem_map_of_mem hnode
  calc d.unvisited path ≤ d.index.keys.length := List.countP_le_length
    _ ≤ (d.toList.map Node.id).length := (hnodup.subperm hsub).length_le
    _ = d.size := by rw [List.length_map]; rfl

namespace Catalog

variable {α : Type}

/-! ## The children of a node -/

/-- The trees of the children of a node, each from a walk down to the child.  A child that is no
node is told and left out, and so is one that is on the trail. -/
def enterAll (c : Catalog α)
    (down : String → MaterialHandle α → Walker α → Option (Tree (Group α) × Walker α))
    (parent : String) (material : MaterialHandle α) :
    List String → Walker α → Option (List (Tree (Group α)) × Walker α)
  | [], s => some ([], s)
  | id :: rest, s =>
      if !c.nodes.contains id then
        c.enterAll down parent material rest (s.tell (.danglingChild parent id))
      else if s.trail.contains id then
        c.enterAll down parent material rest (s.tell (.cyclicChild parent id))
      else do
        let (tree, s) ← down id material s
        let (others, s) ← c.enterAll down parent material rest s
        some (tree :: others, s)

section Children

variable {c : Catalog α} {parent id : String} {rest : List String} {material : MaterialHandle α}
  {s t u : Walker α}
  {down : String → MaterialHandle α → Walker α → Option (Tree (Group α) × Walker α)}

theorem enterAll_nil : c.enterAll down parent material [] s = some ([], s) := rfl

/-- A child that is no node is told and left out. -/
theorem enterAll_dangling (missing : c.nodes.contains id = false) :
    c.enterAll down parent material (id :: rest) s =
      c.enterAll down parent material rest (s.tell (.danglingChild parent id)) := by
  simp only [enterAll, missing, Bool.not_false, if_true]

/-- A child that is on the trail is told and left out. -/
theorem enterAll_cyclic (found : c.nodes.contains id = true) (onTrail : id ∈ s.trail) :
    c.enterAll down parent material (id :: rest) s =
      c.enterAll down parent material rest (s.tell (.cyclicChild parent id)) := by
  simp only [enterAll, found, List.contains_iff_mem.mpr onTrail, Bool.not_true,
    Bool.false_eq_true, if_false, if_true]

/-- A child off the trail is entered, and then the others are. -/
theorem enterAll_enter (found : c.nodes.contains id = true) (offTrail : id ∉ s.trail)
    {tree : Tree (Group α)} {others : List (Tree (Group α))}
    (one : down id material s = some (tree, t))
    (after : c.enterAll down parent material rest t = some (others, u)) :
    c.enterAll down parent material (id :: rest) s = some (tree :: others, u) := by
  have hoff : s.trail.contains id = false :=
    Bool.eq_false_iff.mpr fun h => offTrail (List.contains_iff_mem.mp h)
  simp only [enterAll, found, hoff, Bool.not_true, Bool.false_eq_true, if_false, one, after,
    Option.bind_eq_bind, Option.bind_some]

end Children

/-! ## A node -/

variable [Angular α]

/-- The tree of a node to which a material comes down, from a walk through so many levels at
most.  An id that is no node has a bare group. -/
def enter (c : Catalog α) :
    Nat → String → MaterialHandle α → Walker α → Option (Tree (Group α) × Walker α)
  | 0, _, _, _ => none
  | levels + 1, id, inherited, s =>
      match c.nodes.get? id with
      | none => some (.node (.bare id inherited) [], s)
      | some node => do
          let (top, shelves) := c.groupIn .shelving node inherited s.shelves
          let (inner, s) ← c.enterAll (c.enter levels) node.id top.material node.children
            ⟨shelves, node.id :: s.trail⟩
          some (.node top inner, { s with trail := s.trail.tail })

section Node

variable {c : Catalog α} {levels : Nat} {id : String} {material : MaterialHandle α}
  {s t : Walker α} {node : Node α}

/-- An id that is no node is a bare group, at any number of levels. -/
theorem enter_missing (hlevels : 0 < levels) (missing : c.nodes.get? id = none) :
    c.enter levels id material s = some (.node (.bare id material) [], s) := by
  cases levels with
  | zero => cases hlevels
  | succ levels => simp only [enter, missing]

/-- A walker takes off the trail what it has put on it last. -/
theorem enter_of_enterAll (found : c.nodes.get? id = some node) {top : Group α}
    {shelves : Shelves α} {inner : List (Tree (Group α))}
    (group : c.groupIn .shelving node material s.shelves = (top, shelves))
    (below : c.enterAll (c.enter levels) node.id top.material node.children
      ⟨shelves, node.id :: s.trail⟩ = some (inner, t)) :
    c.enter (levels + 1) id material s =
      some (.node top inner, { t with trail := t.trail.tail }) := by
  simp only [enter, found, group, below, Option.bind_eq_bind, Option.bind_some]

end Node

/-! ## The way back -/

section Back

variable {c : Catalog α}

/-- A walker goes where a walk with two shelves goes that is given the way, and it is back on
its trail in the end.  It needs a level for each id that is off the trail, since every level
puts one of them on it. -/
theorem enterAll_of_belowIn (hc : c.nodes.Consistent) {levels : Nat} (path : List String)
    (hlevels : c.nodes.unvisited path ≤ levels) (parent : String) (material : MaterialHandle α)
    (children : List String) (s : Shelves α) :
    c.enterAll (c.enter levels) parent material children ⟨s, path⟩ =
      some ((c.belowIn .shelving path parent material children s).1,
        ⟨(c.belowIn .shelving path parent material children s).2, path⟩) := by
  induction path, parent, material, children, s using belowIn.induct c .shelving
    generalizing levels with
  | case1 path parent material s => rw [enterAll_nil, belowIn_nil]
  | case2 path parent material s id rest missing ih =>
      rw [enterAll_dangling (hc.get?_eq_none_iff.mp missing), belowIn_dangling missing]
      exact ih hlevels
  | case3 path parent material s id rest node found onPath ih =>
      have hmem : id ∈ path := List.contains_iff_mem.mp onPath
      rw [enterAll_cyclic (NodeDictionary.contains_of_get? found) hmem,
        belowIn_cyclic found hmem]
      exact ih hlevels
  | case4 path parent material s id rest node found offPath top s₁ htop inner s₂ hinner
      others s₃ hothers ihBelow ihRest =>
      have hmem : id ∉ path := fun hmem => offPath (List.contains_iff_mem.mpr hmem)
      have hcontains := NodeDictionary.contains_of_get? found
      have hlt : c.nodes.unvisited (id :: path) < levels :=
        (NodeDictionary.unvisited_lt hcontains (Bool.eq_false_iff.mpr offPath)).trans_le hlevels
      cases levels with
      | zero => exact absurd hlt (Nat.not_lt_zero _)
      | succ levels =>
          obtain rfl : node.id = id := (hc.get?_eq_some_iff.mp found).2
          have hbelow := ihBelow (Nat.le_of_lt_succ hlt)
          have hrest := ihRest hlevels
          rw [hinner] at hbelow
          rw [hothers] at hrest
          rw [belowIn_group found hmem htop hinner hothers]
          exact enterAll_enter hcontains hmem (enter_of_enterAll found htop hbelow) hrest

/-- A walker that may go through more levels than there are nodes leaves a node where it has
entered it. -/
theorem enter_of_belowIn (hc : c.nodes.Consistent) {levels : Nat}
    (hlevels : c.nodes.size < levels) {s : Walker α} {id : String} {node : Node α}
    (found : c.nodes.get? id = some node) {material : MaterialHandle α} {top : Group α}
    {inner : List (Tree (Group α))} {t u : Shelves α}
    (group : c.groupIn .shelving node material s.shelves = (top, t))
    (below : c.belowIn .shelving (node.id :: s.trail) node.id top.material node.children t =
      (inner, u)) :
    c.enter levels id material s = some (.node top inner, ⟨u, s.trail⟩) := by
  cases levels with
  | zero => cases hlevels
  | succ levels =>
      have hunvisited := (hc.unvisited_le_size (node.id :: s.trail)).trans
        (Nat.le_of_lt_succ hlevels)
      have hinner := enterAll_of_belowIn hc (node.id :: s.trail) hunvisited node.id top.material
        node.children t
      rw [below] at hinner
      exact enter_of_enterAll found group hinner

/-- What a walker has done when it leaves a node: it is back on its trail, nothing is gone from
the shelves or from what was told, and the shelves are in order. -/
structure Returns (c : Catalog α) (s t : Walker α) : Prop where
  trail : t.trail = s.trail
  grows : s.shelves.Grows t.shelves
  orderly : t.shelves.Orderly c.nodes

/-- A walker leaves every node that it enters, wherever it is. -/
theorem exists_returns (hc : c.nodes.Consistent) {levels : Nat} (hlevels : c.nodes.size < levels)
    {s : Walker α} (hs : s.shelves.Orderly c.nodes) (id : String) (material : MaterialHandle α) :
    ∃ tree t, c.enter levels id material s = some (tree, t) ∧ c.Returns s t := by
  cases found : c.nodes.get? id with
  | none =>
      exact ⟨_, s, enter_missing (Nat.zero_lt_of_lt hlevels) found, rfl, .refl _, hs⟩
  | some node =>
      have hkeeps := (Shelves.Grows.preserves c.nodes s.shelves).and
        (Shelves.Orderly.preserves c.nodes)
      have hid : node.id = id := (hc.get?_eq_some_iff.mp found).2
      have hgroup := hkeeps.group ⟨.refl _, hs⟩ found hid material
      generalize htop : c.groupIn .shelving node material s.shelves = top at hgroup
      obtain ⟨hgrows, horderly⟩ := hkeeps.below hc hgroup (node.id :: s.trail) node.id
        top.1.material node.children
      have henter := enter_of_belowIn hc hlevels found htop Prod.mk.eta.symm
      exact ⟨_, _, henter, rfl, hgrows, horderly⟩

/-! ## The same trees -/

theorem belowIn_remembering (path : List String) (parent : String) (material : MaterialHandle α)
    (children : List String) (p : Pass α) :
    c.belowIn .remembering path parent material children p =
      c.below path parent material children p :=
  belowIn_of_shown (shown_below path parent material children p)

/-- In a pass too, an id that is no node is a bare group. -/
theorem tree_missing {id : String} (missing : c.nodes.get? id = none)
    (material : MaterialHandle α) (p : Pass α) :
    c.tree id material p = (.node (.bare id material) [], p) := by
  rw [tree, missing]

/-- The tree of a node is its group over what is below it. -/
theorem tree_of_below {id : String} {node : Node α} (found : c.nodes.get? id = some node)
    {material : MaterialHandle α} {p q r : Pass α} {top : Group α}
    {inner : List (Tree (Group α))} (group : c.group node material p = (top, q))
    (below : c.below [id] id top.material node.children q = (inner, r)) :
    c.tree id material p = (.node top inner, r) := by
  rw [tree, found]
  simp only [group, below]

/-- A walker at the root makes the tree that a pass makes which remembers what is on its
shelves. -/
theorem exists_mirrored_tree (hc : c.nodes.Consistent) {levels : Nat}
    (hlevels : c.nodes.size < levels) {p : Pass α} {s : Shelves α} (h : s.Mirrors p)
    (id : String) (material : MaterialHandle α) :
    ∃ t, c.enter levels id material ⟨s, []⟩ = some ((c.tree id material p).1, ⟨t, []⟩) ∧
      t.Mirrors (c.tree id material p).2 := by
  cases found : c.nodes.get? id with
  | none =>
      rw [tree_missing found]
      exact ⟨s, enter_missing (Nat.zero_lt_of_lt hlevels) found, h⟩
  | some node =>
      have hfollows := Shelves.remembering_follows_shelving c.nodes
      obtain rfl : node.id = id := (hc.get?_eq_some_iff.mp found).2
      obtain ⟨top, q, t, hq, ht, hgroup⟩ := hfollows.exists_group h found rfl material
      obtain ⟨inner, r, u, hr, hu, hbelow⟩ :=
        hfollows.exists_below hc hgroup [node.id] node.id top.material node.children
      rw [tree_of_below found hq ((belowIn_remembering ..).symm.trans hr)]
      exact ⟨u, enter_of_belowIn hc hlevels found ht hu, hbelow⟩

end Back

/-! ## Calls -/

/-- A walker after a call.  A scene clears the shelves and the trail before it starts, and hands
the journal over in the end. -/
def serve (c : Catalog α) (levels : Nat) (s : Walker α) : Call α → Option (Walker α)
  | .scene root material =>
      let start : Walker α := ⟨.clear s.shelves.journal, []⟩
      if c.nodes.contains root then do
        let (_, t) ← c.enter levels root material start
        some t.handOver
      else some (start.tell (.danglingChild rootParent root)).handOver
  | .tree id material => do
      let (_, t) ← c.enter levels id material s
      some t

section Call

variable {c : Catalog α} {p : Pass α} {root : String} {material : MaterialHandle α}

/-- A call on a node starts a pass with the journal of the last one, and hands the journal over. -/
theorem call_scene (hroot : c.nodes.contains root = true) :
    c.call p (.scene root material) =
      { (c.tree root material (start p.journal)).2 with journal := .empty } := by
  simp only [call, instantiateAfter, hroot, if_true]
  rfl

/-- A call on an id that is no node tells so. -/
theorem call_scene_missing (hroot : c.nodes.contains root = false) :
    c.call p (.scene root material) =
      { (start p.journal).tell (.danglingChild rootParent root) with journal := .empty } := by
  simp only [call, instantiateAfter, hroot, Bool.false_eq_true, if_false]
  rfl

end Call

/-- A walker between two calls is at the root, its shelves are in order, and they hold what a
pass remembers that was called alike. -/
structure Attends (c : Catalog α) (p : Pass α) (s : Walker α) : Prop where
  trail : s.trail = []
  mirrors : s.shelves.Mirrors p
  orderly : s.shelves.Orderly c.nodes

namespace Attends

variable {c : Catalog α} {p : Pass α} {s : Walker α} {levels : Nat}

/-- A machine that is cleared attends a pass that starts. -/
theorem clear (c : Catalog α) {journal : Journal} (h : journal.problems.Nodup) :
    c.Attends (start journal) ⟨.clear journal, []⟩ where
  trail := rfl
  mirrors := .clear journal
  orderly := .clear h

theorem tell (h : c.Attends p s) (d : Diagnostic) : c.Attends (p.tell d) (s.tell d) where
  trail := h.trail
  mirrors := h.mirrors.tell d
  orderly := h.orderly.tell d

/-- Handing over the journal keeps a machine attending its pass. -/
theorem handOver (h : c.Attends p s) : c.Attends { p with journal := .empty } s.handOver where
  trail := h.trail
  mirrors := ⟨rfl, h.mirrors.builds, h.mirrors.stopped, h.mirrors.figures⟩
  orderly := ⟨h.orderly.apart, h.orderly.shapes, h.orderly.failures, List.nodup_nil⟩

/-- A walker makes the tree that a pass makes, and then attends to the next call. -/
theorem exists_tree (h : c.Attends p s) (hc : c.nodes.Consistent)
    (hlevels : c.nodes.size < levels) (id : String) (material : MaterialHandle α) :
    ∃ t, c.enter levels id material s = some ((c.tree id material p).1, t) ∧
      c.Attends (c.tree id material p).2 t ∧ c.Returns s t := by
  obtain ⟨shelves, trail⟩ := s
  obtain rfl : trail = [] := h.trail
  obtain ⟨t, henter, hmirrors⟩ := exists_mirrored_tree hc hlevels h.mirrors id material
  obtain ⟨_, _, hsame, hreturns⟩ := exists_returns hc hlevels h.orderly id material
  cases hsame.symm.trans henter
  exact ⟨_, henter, ⟨rfl, hmirrors, hreturns.orderly⟩, hreturns⟩

/-- A walker that attends to a call attends to the next one. -/
theorem exists_serve (h : c.Attends p s) (hc : c.nodes.Consistent)
    (hlevels : c.nodes.size < levels) (call : Call α) :
    ∃ t, c.serve levels s call = some t ∧ c.Attends (c.call p call) t := by
  cases call with
  | tree id material =>
      obtain ⟨t, henter, ht, -⟩ := h.exists_tree hc hlevels id material
      refine ⟨t, ?_, ht⟩
      simp only [serve, henter, Option.bind_eq_bind, Option.bind_some]
  | scene root material =>
      have hstart := Attends.clear c h.orderly.problems
      rw [h.mirrors.journal] at hstart
      cases hroot : c.nodes.contains root with
      | true =>
          obtain ⟨t, henter, ht, -⟩ := hstart.exists_tree hc hlevels root material
          rw [call_scene hroot]
          refine ⟨t.handOver, ?_, ht.handOver⟩
          simp only [serve, hroot, if_true, h.mirrors.journal, henter, Option.bind_eq_bind,
            Option.bind_some]
      | false =>
          rw [call_scene_missing hroot]
          refine ⟨_, ?_, (hstart.tell (.danglingChild rootParent root)).handOver⟩
          simp only [serve, hroot, Bool.false_eq_true, if_false, h.mirrors.journal]

/-- A walker attends to any calls, one after another. -/
theorem exists_serves (h : c.Attends p s) (hc : c.nodes.Consistent)
    (hlevels : c.nodes.size < levels) (calls : List (Call α)) :
    ∃ t, calls.foldlM (c.serve levels) s = some t ∧ c.Attends (calls.foldl c.call p) t := by
  induction calls generalizing p s with
  | nil => exact ⟨s, rfl, h⟩
  | cons call calls ih =>
      obtain ⟨t, hserve, ht⟩ := h.exists_serve hc hlevels call
      rw [List.foldlM_cons, hserve]
      exact ih ht

end Attends

/-- After any calls a walker is at the root and its shelves are in order.  Whatever node it
enters then, it makes the tree that a pass makes after these calls.  It leaves with its trail as
it was, with everything on the shelves that was there before and with the problems that were
told before, and the shelves are still in order.  In all this it never goes through more levels
than there are nodes, and one for an id that is no node. -/
theorem orderly_after_calls (nodes : List (Node α)) (materials : MaterialTable α)
    (textures : TextureTable) (calls : List (Call α)) (spare : Nat) :
    let c : Catalog α := ⟨.ofList nodes, materials, textures⟩
    let levels := c.nodes.size + 1 + spare
    ∃ s, calls.foldlM (c.serve levels) .fresh = some s ∧ c.Attends (c.after calls) s ∧
      ∀ id material, ∃ t, c.enter levels id material s =
          some ((c.tree id material (c.after calls)).1, t) ∧
        c.Attends (c.tree id material (c.after calls)).2 t ∧ c.Returns s t := by
  intro c levels
  have hc : c.nodes.Consistent := NodeDictionary.consistent_ofList nodes
  have hlevels : c.nodes.size < levels := Nat.lt_add_right spare (Nat.lt_succ_self _)
  have hfresh : c.Attends .fresh .fresh := .clear c List.nodup_nil
  obtain ⟨s, hs, hattends⟩ := hfresh.exists_serves hc hlevels calls
  exact ⟨s, hs, hattends, fun id material => hattends.exists_tree hc hlevels id material⟩

end Catalog

end Scenery
