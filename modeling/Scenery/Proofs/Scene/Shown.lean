import Scenery.Proofs.Node.Dictionary
import Scenery.Scene.Instantiate

/-!
# How trees of groups come about

`Shown` is the walk of `Catalog.below` as a derivation.  It has one rule for each
thing that can become of a child: the list of children is at its end, the child
is no node, the child is on the way already, or the child has a group, with the
groups of its own children below.

A derivation tells what the pass was before and after, so whatever is to be known
of a scene and of what came up follows by induction on it.  `shown_below` says
that there always is one.  A scene has one too: its root is shown as the only child
of nothing (`shown_instantiateAfter`).
-/

namespace Scenery

namespace Catalog

variable {α : Type} [Angular α] {c : Catalog α}

/-- The trees of the children of a node, from a pass before to a pass after.
`path` holds the ids from that node up to the root. -/
inductive Shown (c : Catalog α) : List String → String → MaterialHandle α → List String →
    Pass α → List (Tree (Group α)) → Pass α → Prop where
  /-- No child is left. -/
  | nil {path : List String} {parent : String} {material : MaterialHandle α} {p : Pass α} :
      Shown c path parent material [] p [] p
  /-- A child that is no node. -/
  | dangling {path : List String} {parent id : String} {material : MaterialHandle α}
      {ids : List String} {p q : Pass α} {trees : List (Tree (Group α))}
      (missing : c.nodes.get? id = none)
      (rest : Shown c path parent material ids (p.tell (.danglingChild parent id)) trees q) :
      Shown c path parent material (id :: ids) p trees q
  /-- A child that is on the way already. -/
  | cyclic {path : List String} {parent id : String} {material : MaterialHandle α}
      {ids : List String} {p q : Pass α} {trees : List (Tree (Group α))} {node : Node α}
      (found : c.nodes.get? id = some node) (onPath : id ∈ path)
      (rest : Shown c path parent material ids (p.tell (.cyclicChild parent id)) trees q) :
      Shown c path parent material (id :: ids) p trees q
  /-- A child with a group. -/
  | group {path : List String} {parent id : String} {material : MaterialHandle α}
      {ids : List String} {p q r : Pass α} {inner others : List (Tree (Group α))}
      {node : Node α} (found : c.nodes.get? id = some node) (offPath : id ∉ path)
      (below : Shown c (id :: path) id (c.effective node material) node.children
        (c.group node material p).2 inner q)
      (rest : Shown c path parent material ids q others r) :
      Shown c path parent material (id :: ids) p
        (.node (c.group node material p).1 inner :: others) r

/-! ## The walk step by step -/

section Steps

variable {path ids : List String} {parent id : String} {material : MaterialHandle α}
  {p : Pass α} {node : Node α}

theorem below_nil : c.below path parent material [] p = ([], p) := by
  rw [below]

theorem below_dangling (missing : c.nodes.get? id = none) :
    c.below path parent material (id :: ids) p =
      c.below path parent material ids (p.tell (.danglingChild parent id)) := by
  rw [below]
  split
  · rfl
  next node found => rw [missing] at found; cases found

theorem below_cyclic (found : c.nodes.get? id = some node) (onPath : id ∈ path) :
    c.below path parent material (id :: ids) p =
      c.below path parent material ids (p.tell (.cyclicChild parent id)) := by
  rw [below]
  split
  next missing => rw [found] at missing; cases missing
  · rw [dif_pos (List.contains_iff_mem.mpr onPath)]

theorem below_group (found : c.nodes.get? id = some node) (offPath : id ∉ path)
    {top : Group α} {inner others : List (Tree (Group α))} {p₁ p₂ p₃ : Pass α}
    (htop : c.group node material p = (top, p₁))
    (hinner : c.below (id :: path) id top.material node.children p₁ = (inner, p₂))
    (hothers : c.below path parent material ids p₂ = (others, p₃)) :
    c.below path parent material (id :: ids) p = (.node top inner :: others, p₃) := by
  rw [below]
  split
  next missing => rw [found] at missing; cases missing
  next other hother =>
    obtain rfl : node = other := Option.some.inj (found.symm.trans hother)
    rw [dif_neg (fun hmem => offPath (List.contains_iff_mem.mp hmem))]
    simp only [htop, hinner, hothers]

end Steps

/-- What a walk makes is derived by the rules. -/
theorem shown_below (path : List String) (parent : String) (material : MaterialHandle α)
    (children : List String) (p : Pass α) :
    Shown c path parent material children p (c.below path parent material children p).1
      (c.below path parent material children p).2 := by
  induction path, parent, material, children, p using below.induct c with
  | case1 path parent material p =>
      rw [below_nil]
      exact .nil
  | case2 path parent material p id ids missing ih =>
      rw [below_dangling missing]
      exact .dangling missing ih
  | case3 path parent material p id ids node found onPath ih =>
      have hmem := List.contains_iff_mem.mp onPath
      rw [below_cyclic found hmem]
      exact .cyclic found hmem ih
  | case4 path parent material p id ids node found offPath top p₁ htop inner p₂ hinner
      others p₃ hothers ihBelow ihRest =>
      have hoff : id ∉ path := fun hmem => offPath (List.contains_iff_mem.mpr hmem)
      rw [below_group found hoff htop hinner hothers]
      rw [hinner] at ihBelow
      rw [hothers] at ihRest
      obtain rfl : (c.group node material p).1 = top := by rw [htop]
      obtain rfl : (c.group node material p).2 = p₁ := by rw [htop]
      exact .group found hoff ihBelow ihRest

theorem group_id (h : c.nodes.Consistent) {id : String} {node : Node α}
    (found : c.nodes.get? id = some node) (inherited : MaterialHandle α) (p : Pass α) :
    (c.group node inherited p).1.id = id :=
  (h.get?_eq_some_iff.mp found).2

/-! ## Whole scenes -/

/-- The pass of a scene starts with what came up so far, and has shown nothing. -/
def start (journal : Journal) : Pass α := { Pass.fresh with journal := journal }

/-- A scene is shown like a child of nothing, its root the only child.  Its problems are
those of the pass, which keeps all else. -/
theorem shown_instantiateAfter (h : c.nodes.Consistent) (journal : Journal) (root : String)
    (material : MaterialHandle α) :
    ∃ q, Shown c [] rootParent material [root] (start journal)
        (c.instantiateAfter journal root material).1.trees q ∧
      (c.instantiateAfter journal root material).1.problems = q.journal.problems ∧
      (c.instantiateAfter journal root material).2 = { q with journal := .empty } := by
  unfold instantiateAfter Scene.problems
  cases hroot : c.nodes.contains root with
  | true =>
      obtain ⟨node, found⟩ := h.contains_iff_get?.mp hroot
      simp only [if_true, tree, found, Journal.problems_note]
      exact ⟨_, .group found List.not_mem_nil (shown_below ..) .nil, rfl, rfl⟩
  | false =>
      have missing := h.get?_eq_none_iff.mpr hroot
      simp only [Bool.false_eq_true, if_false, Journal.problems_note]
      exact ⟨_, .dangling missing .nil, rfl, rfl⟩

end Catalog

end Scenery
