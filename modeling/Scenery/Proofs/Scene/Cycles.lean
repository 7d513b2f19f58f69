import Scenery.Proofs.Load
import Scenery.Proofs.Node.Confined

/-!
# Graphs with cycles

A scene only looks back along the path it is on.  Yet it tells of a cyclic child whenever the
nodes lead back to one another anywhere (`Catalog.cyclicChild_iff`), however a cycle is
entered and whichever of its nodes is come to first.

*What is told comes from a cycle.*  A child that is told is on the path already.  So the path
leads from the child to the node that lists it, and the node leads back.

*Every cycle is told.*  Suppose no simple path has a last node that leads back to it.  Then a
simple path can only go on to ids that are new to it, so every way from the root is a simple
path (`NodeDictionary.Way.simplePath_of_forward`).  But all nodes of a graph are come to from
its root.  So a simple path to a node of a cycle goes on around the cycle until it comes to
that node again.  It is still a simple path then, and it holds the node twice.

Where there is no cycle every way has its group, since every way is a simple path
(`Scene.ShowsAll`).
-/

namespace Scenery

namespace NodeDictionary

variable {α : Type} {d : NodeDictionary α} {root : String}

/-- A node leads to another. -/
def Leads (d : NodeDictionary α) (id child : String) : Prop :=
  d.Lists id child ∧ d.contains child = true

/-- Some node leads back to itself, at once or through others. -/
def HasCycle (d : NodeDictionary α) : Prop := ∃ id, Relation.TransGen d.Leads id id

/-- The last node of a simple path leads back to a node of the path. -/
def TurnsBack (d : NodeDictionary α) (root : String) : Prop :=
  ∃ way last child, d.SimplePath root way ∧ way.getLast? = some last ∧ d.Lists last child ∧
    child ∈ way

/-- A way leads from each of its nodes to its last one. -/
theorem Way.reflTransGen {last id : String} {before after : List String}
    (h : d.Way root (before ++ id :: after)) (hlast : (id :: after).getLast? = some last) :
    Relation.ReflTransGen d.Leads id last := by
  have hlinked : (id :: after).IsChain d.Leads := by
    refine h.linked.right_of_append.imp_of_mem_imp ?_
    intro x y _ hy hxy
    exact ⟨hxy, h.held y (List.mem_append_right before hy)⟩
  refine List.relationReflTransGen_of_exists_isChain_cons after hlinked ?_
  rw [List.getLast?_eq_some_getLast (List.cons_ne_nil _ _)] at hlast
  exact Option.some.inj hlast

/-- Where a way turns back there is a cycle. -/
theorem TurnsBack.hasCycle (h : d.TurnsBack root) : d.HasCycle := by
  obtain ⟨way, last, child, hway, hlast, hlisted, hback⟩ := h
  have hheld := hway.held child hback
  obtain ⟨before, after, rfl⟩ := List.append_of_mem hback
  have hends : (child :: after).getLast? = some last := by
    rw [List.getLast?_append_of_ne_nil before (List.cons_ne_nil _ _)] at hlast
    exact hlast
  exact ⟨child, .tail' (hway.way.reflTransGen hends) ⟨hlisted, hheld⟩⟩

/-- If no simple path turns back, every way from the root is a simple path. -/
theorem Way.simplePath_of_forward (hforward : ¬ d.TurnsBack root) :
    ∀ {way : List String}, d.Way root way → d.SimplePath root way := by
  intro way
  induction way using List.reverseRecOn with
  | nil => intro h; cases h.starts
  | append_singleton before last ih =>
      intro h
      have hheld : d.contains last = true := h.held last (by simp)
      rcases h.cases_concat with ⟨rfl, rfl⟩ | ⟨above, hbefore, habove, hlisted⟩
      · exact h.simplePath (List.nodup_singleton _)
      · have hsimple := ih hbefore
        have hnew : last ∉ before := by
          intro hmem
          exact hforward ⟨before, above, last, hsimple, habove, hlisted, hmem⟩
        exact hsimple.concat habove hlisted hheld hnew

/-- A way goes on to whatever its last node leads to. -/
theorem Way.exists_concat {way : List String} {id last : String} (h : d.Way root way)
    (hlast : way.getLast? = some id) (hleads : Relation.TransGen d.Leads id last) :
    ∃ more, d.Way root (way ++ more) ∧ (way ++ more).getLast? = some last ∧ last ∈ more := by
  induction hleads with
  | single hstep =>
      exact ⟨[_], h.concat hlast hstep.1 hstep.2, List.getLast?_concat ..,
        List.mem_singleton_self _⟩
  | @tail between last _ hstep ih =>
      obtain ⟨more, hmore, hend, -⟩ := ih
      refine ⟨more ++ [last], ?_, ?_, by simp⟩
      · rw [← List.append_assoc]
        exact hmore.concat hend hstep.1 hstep.2
      · rw [← List.append_assoc]
        exact List.getLast?_concat ..

/-- Where all nodes are come to from a root, a path turns back if there is a cycle. -/
theorem HasCycle.turnsBack (h : d.HasCycle)
    (hreach : ∀ id, d.contains id = true → d.Reaches root id) : d.TurnsBack root := by
  by_contra hforward
  obtain ⟨id, hcycle⟩ := h
  have hheld : d.contains id = true := by
    obtain ⟨_, -, hlast⟩ := Relation.TransGen.tail'_iff.mp hcycle
    exact hlast.2
  obtain ⟨way, hway, hlast⟩ := (hreach id hheld).exists_simplePath
  obtain ⟨more, hmore, -, hmem⟩ := hway.way.exists_concat hlast hcycle
  -- the way around the cycle comes to the id again, so it is no simple path
  have hdistinct := (hmore.simplePath_of_forward hforward).distinct
  exact (List.nodup_append.mp hdistinct).2.2 id (List.mem_of_getLast? hlast) id hmem rfl

end NodeDictionary

/-- A scene shows all ways from a root: it has one group for each (`ways`, `once`), and below
a group is a group for each child of its node that is a node (`uncut`). -/
structure Scene.ShowsAll {α : Type} (s : Scene α) (d : NodeDictionary α) (root : String) :
    Prop where
  uncut : ∀ tree way, (tree, way) ∈ s.routes → ∃ node, d.get? tree.label.id = some node ∧
    tree.children.map (fun inner => inner.label.id) = node.children.filter d.contains
  ways : ∀ way, way ∈ s.ways ↔ d.Way root way
  once : s.ways.Nodup

/-- Where no path turns back a scene shows all ways. -/
theorem Scene.Unfolds.showsAll {α : Type} {s : Scene α} {d : NodeDictionary α} {root : String}
    (h : s.Unfolds d root) (hforward : ¬ d.TurnsBack root) : s.ShowsAll d root where
  uncut := by
    intro tree way hmem
    obtain ⟨node, found, horder⟩ := h.order tree way hmem
    refine ⟨node, found, horder.trans (List.filter_congr ?_)⟩
    intro child hchild
    have hnew : way.contains child = false := by
      rw [Bool.eq_false_iff, Ne, List.contains_iff_mem]
      intro hback
      exact hforward ⟨way, tree.label.id, child,
        (h.simple way).mp (Scene.mem_ways_of_mem_routes hmem), h.last tree way hmem,
        ⟨node, found, hchild⟩, hback⟩
    rw [hnew, Bool.not_false, Bool.and_true]
  ways := by
    intro way
    rw [h.simple way]
    exact ⟨fun hway => hway.way, fun hway => hway.simplePath_of_forward hforward⟩
  once := h.once

namespace Catalog

variable {α : Type} [Angular α] {c : Catalog α} {root : String}

/-- A scene tells of a cyclic child if a path turns back. -/
theorem exists_cyclicChild_iff (h : c.nodes.Consistent) (hroot : c.nodes.contains root = true)
    (material : MaterialHandle α) :
    (∃ node child, .cyclicChild node child ∈ (c.instantiate root material).problems) ↔
      c.nodes.TurnsBack root := by
  have htold : ∀ problem, problem ∈ (c.instantiate root material).problems ↔
      c.Faulty root problem := by
    intro problem
    refine (mem_problems_iff h .empty hroot material problem).trans ?_
    simp
  simp only [htold]
  constructor
  · rintro ⟨node, child, hfaulty⟩
    cases hfaulty with
    | cyclic path ends listed back => exact ⟨_, node, child, path, ends, listed, back⟩
    | own _ _ problem => cases problem
  · rintro ⟨way, last, child, path, ends, listed, back⟩
    exact ⟨last, child, .cyclic path ends listed back⟩

/-- A graph is shown from its root with a cyclic child told if, and only if, its nodes have a
cycle.  If they have none, all ways from the root are shown. -/
theorem cyclicChild_iff (g : Records) (root : String) (before : Journal)
    (hroot : (NodeDictionary.ofRecords g root before).1.contains root = true)
    (materials : MaterialTable Float32) (textures : TextureTable)
    (material : MaterialHandle Float32) :
    let d := (NodeDictionary.ofRecords g root before).1
    let s := (⟨d, materials, textures⟩ : Catalog Float32).instantiate root material
    ((∃ node child, .cyclicChild node child ∈ s.problems) ↔ d.HasCycle) ∧
      (¬ d.HasCycle → s.ShowsAll d root) := by
  intro d s
  have hexplored : NodeDictionary.Explored g root d :=
    NodeDictionary.explored_ofRecords g root before
  have hreach : ∀ id, d.contains id = true → d.Reaches root id :=
    fun id hid => hexplored.reaches_iff.mpr (hexplored.consistent.contains_iff.mp hid)
  have hturns : d.TurnsBack root ↔ d.HasCycle :=
    ⟨fun h => h.hasCycle, fun h => h.turnsBack hreach⟩
  constructor
  · exact (exists_cyclicChild_iff (c := ⟨d, materials, textures⟩) hexplored.consistent hroot
      material).trans hturns
  · intro hacyclic
    exact (unfolds_ofRecords g root before materials textures .empty hroot material).showsAll
      (mt hturns.mp hacyclic)

/-- Two nodes that lead to each other, shown from one of them. -/
theorem cyclicChild_ring :
    let d := (NodeDictionary.ofRecords NodeDictionary.ring "a" .empty).1
    let s := (⟨d, .empty, .empty⟩ : Catalog Float32).instantiate "a" (.free .neutral)
    d.contains "a" = true ∧
      ((∃ node child, .cyclicChild node child ∈ s.problems) ↔ d.HasCycle) ∧
      (¬ d.HasCycle → s.ShowsAll d "a") := by
  have hroot : (NodeDictionary.ofRecords NodeDictionary.ring "a" .empty).1.contains "a" = true :=
    (NodeDictionary.explored_ofRecords NodeDictionary.ring "a" .empty).contains_of_reachesIn .root
      (by decide)
  exact ⟨hroot, cyclicChild_iff NodeDictionary.ring "a" .empty hroot .empty .empty (.free .neutral)⟩

end Catalog

end Scenery
