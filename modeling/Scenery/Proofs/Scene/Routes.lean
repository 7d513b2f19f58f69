import Scenery.Proofs.Node.BreadthFirst
import Scenery.Proofs.Node.Paths
import Scenery.Proofs.Scene.Shown
import Scenery.Proofs.Tree

/-!
# Groups and simple paths

A scene shows a node once for every way to come to it.  `Scene.routes` lists the
places of a scene, each with the ids on the way to it.  `Scene.Unfolds` says that
the ways are the simple paths of the dictionary, one place for each, and that places
lie below one another as paths go on.

*The ways.*  A walk shows what continues its path, and no more (`Shown.mem_ways`).
This is by induction on the derivation: a child that is no node or on the path
already continues nothing, and what continues the path through a child with a group
is the child, alone or with what continues the longer path.

*One place for each.*  Two places could only have one way if a node listed a child
twice.  If no node does, the ways of two children part at the children, and no way
is come by twice (`Shown.nodup_ways`).

*Places.*  What is below a place is a walk again, on the path to it.  `Shown.at_place`
takes it up there, with whatever went down along the path.
-/

namespace Scenery

variable {α : Type}

namespace Scene

/-! ## Places and ways -/

/-- The places of trees below the end of a way, each with the way to it. -/
def routesFrom (way : List String) (trees : List (Tree (Group α))) :
    List (Tree (Group α) × List String) :=
  Tree.withinAll (fun way g => way ++ [g.id]) way trees

/-- The places of a scene, parents first, each with the ids on the way to it. -/
def routes (s : Scene α) : List (Tree (Group α) × List String) := routesFrom [] s.trees

/-- The ways to the places of trees below the end of a way. -/
def waysFrom (way : List String) (trees : List (Tree (Group α))) : List (List String) :=
  (routesFrom way trees).map Prod.snd

/-- The ways to the places of a scene, parents first. -/
def ways (s : Scene α) : List (List String) := waysFrom [] s.trees

/-- A scene unfolds a dictionary from a root: it has one group for each simple path,
below the group of the path without its last id. -/
structure Unfolds (s : Scene α) (d : NodeDictionary α) (root : String) : Prop where
  /-- There is one tree, with a group of the root at its top. -/
  single : ∃ top, s.trees = [top] ∧ top.label.id = root
  /-- The places are those of the groups. -/
  groups : s.groups = s.routes.map fun place => place.1.label
  /-- The ways to the places are the simple paths. -/
  simple : ∀ way, way ∈ s.ways ↔ d.SimplePath root way
  /-- No two places have the same way. -/
  once : s.ways.Nodup
  /-- A group is of the last id of its way. -/
  last : ∀ tree way, (tree, way) ∈ s.routes → way.getLast? = some tree.label.id
  /-- A group is right below the group of its way without the last id. -/
  parent : ∀ tree way id, (tree, way ++ [id]) ∈ s.routes → way ≠ [] →
    ∃ above, (above, way) ∈ s.routes ∧ tree ∈ above.children
  /-- The way to a group right below another is that of the other and its own id. -/
  child : ∀ tree way, (tree, way) ∈ s.routes →
    ∀ inner ∈ tree.children, (inner, way ++ [inner.label.id]) ∈ s.routes
  /-- The groups right below one are in the order of the children of its node, without
  those that are no nodes or on the way already. -/
  order : ∀ tree way, (tree, way) ∈ s.routes → ∃ node, d.get? tree.label.id = some node ∧
    tree.children.map (fun inner => inner.label.id) =
      node.children.filter fun id => d.contains id && !way.contains id
  /-- No group below another is of the same id. -/
  fresh : ∀ tree way, (tree, way) ∈ s.routes →
    ∀ g ∈ Tree.labels tree.children, g.id ≠ tree.label.id
  /-- The trees are at most as deep as there are nodes. -/
  depth : ∀ level ∈ (Tree.scanAll (fun above _ => above + 1) 0 s.trees).map Prod.snd,
    level ≤ d.size

theorem routesFrom_nil (way : List String) : routesFrom way ([] : List (Tree (Group α))) = [] :=
  Tree.withinAll_nil

theorem waysFrom_nil (way : List String) : waysFrom way ([] : List (Tree (Group α))) = [] := by
  rw [waysFrom, routesFrom_nil, List.map_nil]

/-- The places of a group come before those of the trees after it. -/
theorem routesFrom_cons {g : Group α} {id : String} (hid : g.id = id) (path : List String)
    (inner others : List (Tree (Group α))) :
    routesFrom path.reverse (.node g inner :: others) =
      (.node g inner, (id :: path).reverse) ::
        (routesFrom (id :: path).reverse inner ++ routesFrom path.reverse others) := by
  unfold routesFrom
  rw [Tree.withinAll_cons, Tree.within_node, List.cons_append, hid, List.reverse_cons]

theorem waysFrom_cons {g : Group α} {id : String} (hid : g.id = id) (path : List String)
    (inner others : List (Tree (Group α))) :
    waysFrom path.reverse (.node g inner :: others) =
      (id :: path).reverse ::
        (waysFrom (id :: path).reverse inner ++ waysFrom path.reverse others) := by
  unfold waysFrom
  rw [routesFrom_cons hid, List.map_cons, List.map_append]

/-! ## Places below places -/

/-- The groups of a scene are at its places. -/
theorem groups_eq_map_routes (s : Scene α) :
    s.groups = s.routes.map fun place => place.1.label :=
  Tree.labels_eq_map_withinAll _ _ _

variable {s : Scene α} {tree : Tree (Group α)} {way : List String}

theorem mem_ways_of_mem_routes (h : (tree, way) ∈ s.routes) : way ∈ s.ways :=
  List.mem_map.mpr ⟨(tree, way), h, rfl⟩

theorem getLast?_of_mem_routes (h : (tree, way) ∈ s.routes) :
    way.getLast? = some tree.label.id := by
  rcases Tree.mem_withinAll_cases h with ⟨-, rfl⟩ | ⟨above, before, -, -, rfl⟩
  · exact List.getLast?_concat ..
  · exact List.getLast?_concat ..

theorem mem_routes_of_child (h : (tree, way) ∈ s.routes) {inner : Tree (Group α)}
    (hinner : inner ∈ tree.children) : (inner, way ++ [inner.label.id]) ∈ s.routes :=
  Tree.mem_withinAll_of_child hinner h

/-- A way that is not a single id leads through the group above. -/
theorem exists_parent_of_mem_routes {id : String} (h : (tree, way ++ [id]) ∈ s.routes)
    (hway : way ≠ []) : ∃ above, (above, way) ∈ s.routes ∧ tree ∈ above.children := by
  rcases Tree.mem_withinAll_cases h with ⟨-, heq⟩ | ⟨above, before, hbefore, hchild, heq⟩
  · exact absurd (List.append_inj' heq rfl).1 hway
  · obtain ⟨rfl, -⟩ := List.append_inj' heq rfl
    exact ⟨above, hbefore, hchild⟩

/-- The way to a group below another goes on from the way to the other. -/
theorem exists_way_of_below (h : (tree, way) ∈ s.routes) {g : Group α}
    (hg : g ∈ Tree.labels tree.children) : ∃ between, way ++ between ++ [g.id] ∈ s.ways := by
  rw [Tree.labels_eq_map_withinAll (fun way g => way ++ [g.id]) way] at hg
  obtain ⟨⟨inner, longer⟩, hinner, rfl⟩ := List.mem_map.mp hg
  obtain ⟨between, rfl⟩ : ∃ between, longer = way ++ between ++ [inner.label.id] := by
    refine Tree.withinAll_induction
      (P := fun t e => ∃ between, e = way ++ between ++ [t.label.id]) ?_ ?_ _ hinner
    · rintro t _ ⟨between, rfl⟩ deeper -
      exact ⟨between ++ [t.label.id], by rw [← List.append_assoc]⟩
    · intro t _
      exact ⟨[], by rw [List.append_nil]⟩
  exact ⟨between, mem_ways_of_mem_routes (Tree.mem_withinAll_of_below h _ hinner)⟩

/-- A scene that unfolds a dictionary has groups of the nodes that are come to. -/
theorem Unfolds.exists_group_iff {d : NodeDictionary α} {root id : String}
    (h : s.Unfolds d root) : (∃ g ∈ s.groups, g.id = id) ↔ d.Reaches root id := by
  rw [NodeDictionary.reaches_iff_exists_simplePath, h.groups]
  constructor
  · rintro ⟨g, hg, rfl⟩
    obtain ⟨⟨tree, way⟩, hmem, rfl⟩ := List.mem_map.mp hg
    exact ⟨way, (h.simple way).mp (mem_ways_of_mem_routes hmem), h.last tree way hmem⟩
  · rintro ⟨way, hway, hlast⟩
    obtain ⟨⟨tree, _⟩, hmem, rfl⟩ := List.mem_map.mp ((h.simple way).mpr hway)
    refine ⟨tree.label, List.mem_map.mpr ⟨_, hmem, rfl⟩, ?_⟩
    exact Option.some.inj ((h.last tree _ hmem).symm.trans hlast)

/-- A group is as deep as its way is long. -/
theorem levels_eq_map_ways (s : Scene α) :
    (Tree.scanAll (fun above _ => above + 1) 0 s.trees).map Prod.snd = s.ways.map List.length := by
  have himage := Tree.withinAll_image (f := fun (way : List String) (g : Group α) => way ++ [g.id])
    (g := fun above _ => above + 1) (h := List.length) (c := [])
    (fun way g => by rw [List.length_append, List.length_singleton]) s.trees
  rw [List.length_nil] at himage
  unfold ways waysFrom routesFrom
  rw [Tree.scanAll_eq_map_withinAll, himage, List.map_map, List.map_map, List.map_map]
  rfl

end Scene

namespace Catalog.Shown

open Scene

variable [Angular α] {c : Catalog α} {path children : List String} {parent : String}
  {material : MaterialHandle α} {p q : Pass α} {trees : List (Tree (Group α))}

/-! ## The ways of a walk -/

/-- A walk shows what continues its path. -/
theorem mem_ways (h : c.nodes.Consistent)
    (hs : Shown c path parent material children p trees q) :
    ∀ {way : List String}, way ∈ waysFrom path.reverse trees ↔
      ∃ next rest, way = path.reverse ++ next :: rest ∧
        c.nodes.Continues path children (next :: rest) := by
  induction hs with
  | nil =>
      intro way
      rw [waysFrom_nil]
      constructor
      · intro hway
        cases hway
      · rintro ⟨next, rest, -, hchild, -⟩
        cases hchild
  | dangling missing _ ih =>
      intro way
      simp only [ih, NodeDictionary.continues_cons_of_skipped (Or.inl missing)]
  | cyclic _ onPath _ ih =>
      intro way
      simp only [ih, NodeDictionary.continues_cons_of_skipped (Or.inr onPath)]
  | @group path _ id material ids p _ _ inner others node found offPath _ _ ihBelow ihRest =>
      intro way
      have hid := group_id h found material p
      rw [waysFrom_cons hid, List.mem_cons, List.mem_append, ihBelow, ihRest]
      simp only [NodeDictionary.continues_cons_of_found found offPath]
      constructor
      · rintro (rfl | ⟨next, rest, rfl, hrest⟩ | ⟨next, rest, rfl, hrest⟩)
        · exact ⟨id, [], by rw [List.reverse_cons], Or.inl ⟨rfl, trivial⟩⟩
        · refine ⟨id, next :: rest, ?_, Or.inl ⟨rfl, hrest⟩⟩
          rw [List.reverse_cons, List.append_assoc, List.singleton_append]
        · exact ⟨next, rest, rfl, Or.inr hrest⟩
      · rintro ⟨next, rest, rfl, ⟨rfl, hrest⟩ | hrest⟩
        · cases rest with
          | nil => exact Or.inl List.reverse_cons.symm
          | cons second rest =>
              refine Or.inr (Or.inl ⟨second, rest, ?_, hrest⟩)
              rw [List.reverse_cons, List.append_assoc, List.singleton_append]
        · exact Or.inr (Or.inr ⟨next, rest, rfl, hrest⟩)

/-- A walk shows no way twice if no node lists a child twice. -/
theorem nodup_ways (h : c.nodes.Consistent)
    (hnodes : ∀ id node, c.nodes.get? id = some node → node.children.Nodup)
    (hs : Shown c path parent material children p trees q) (hchildren : children.Nodup) :
    (waysFrom path.reverse trees).Nodup := by
  induction hs with
  | nil =>
      rw [waysFrom_nil]
      exact List.nodup_nil
  | dangling _ _ ih => exact ih (List.nodup_cons.mp hchildren).2
  | cyclic _ _ _ ih => exact ih (List.nodup_cons.mp hchildren).2
  | @group path _ id material ids p _ _ inner others node found offPath hbelow hrest ihBelow
      ihRest =>
      obtain ⟨hnew, hids⟩ := List.nodup_cons.mp hchildren
      have hid := group_id h found material p
      -- what is shown after the child parts from its path at once
      have hothers : ∀ {rest : List String},
          path.reverse ++ id :: rest ∉ waysFrom path.reverse others := by
        intro rest hmem
        obtain ⟨next, more, heq, hchild, -⟩ := (hrest.mem_ways h).mp hmem
        obtain ⟨rfl, -⟩ := List.cons.inj (List.append_cancel_left heq)
        exact hnew hchild
      rw [waysFrom_cons hid]
      refine List.nodup_cons.mpr ⟨fun hmem => ?_, List.nodup_append.mpr
        ⟨ihBelow (hnodes id node found), ihRest hids, ?_⟩⟩
      · rcases List.mem_append.mp hmem with hmem | hmem
        · -- what is below the child is longer than its path
          obtain ⟨next, more, heq, -⟩ := (hbelow.mem_ways h).mp hmem
          exact absurd (List.self_eq_append_right.mp heq) (List.cons_ne_nil _ _)
        · rw [List.reverse_cons] at hmem
          exact hothers hmem
      · rintro way hway other hother rfl
        obtain ⟨next, more, rfl, -⟩ := (hbelow.mem_ways h).mp hway
        rw [List.reverse_cons, List.append_assoc, List.singleton_append] at hother
        exact hothers hother

/-! ## Children in order -/

/-- The tops of a walk are its children in order, without those that are skipped. -/
theorem map_id (h : c.nodes.Consistent)
    (hs : Shown c path parent material children p trees q) :
    trees.map (fun tree => tree.label.id) =
      children.filter fun id => c.nodes.contains id && !path.contains id := by
  induction hs with
  | nil => rfl
  | @dangling path _ id _ ids _ _ _ missing _ ih =>
      have hc := h.get?_eq_none_iff.mp missing
      rw [ih, List.filter_cons, hc, Bool.false_and, if_neg Bool.false_ne_true]
  | @cyclic path _ id _ ids _ _ _ _ _ onPath _ ih =>
      have hp : path.contains id = true := List.contains_iff_mem.mpr onPath
      rw [ih, List.filter_cons, hp, Bool.not_true, Bool.and_false, if_neg Bool.false_ne_true]
  | @group path _ id material ids p _ _ inner others node found offPath _ _ _ ihRest =>
      have hid := group_id h found material p
      have hc : c.nodes.contains id = true := h.contains_iff_get?.mpr ⟨node, found⟩
      have hp : path.contains id = false := by
        rw [Bool.eq_false_iff, Ne, List.contains_iff_mem]
        exact offPath
      rw [List.map_cons, ihRest, List.filter_cons, hc, hp, Bool.not_false, Bool.and_true,
        if_pos rfl]
      exact congrArg (· :: _) hid

/-! ## The walk at a place -/

/-- The walk can be taken up at each place: its group is made from its node and the
material that comes down to it, and below it are the trees of a walk on the longer
path.  `I` is what goes on with paths and materials from node to node. -/
theorem at_place (h : c.nodes.Consistent) {I : List String → MaterialHandle α → Prop}
    (step : ∀ path id node material, c.nodes.get? id = some node → I path material →
      I (id :: path) (c.effective node material))
    (hs : Shown c path parent material children p trees q) (hI : I path material) :
    ∀ {tree : Tree (Group α)} {way : List String}, (tree, way) ∈ routesFrom path.reverse trees →
      ∃ above node inherited r t, c.nodes.get? tree.label.id = some node ∧
        way = (tree.label.id :: above).reverse ∧ I above inherited ∧
        tree.label = (c.group node inherited r).1 ∧
        Shown c (tree.label.id :: above) tree.label.id (c.effective node inherited)
          node.children (c.group node inherited r).2 tree.children t := by
  induction hs with
  | nil =>
      intro tree way hmem
      rw [routesFrom_nil] at hmem
      cases hmem
  | dangling _ _ ih => exact ih hI
  | cyclic _ _ _ ih => exact ih hI
  | @group path _ id material ids p q _ inner others node found _ hbelow _ ihBelow ihRest =>
      intro tree way hmem
      obtain rfl := group_id h found material p
      rw [routesFrom_cons rfl] at hmem
      rcases List.mem_cons.mp hmem with htop | hmem
      · cases htop
        exact ⟨path, node, material, p, q, found, rfl, hI, rfl, hbelow⟩
      · rcases List.mem_append.mp hmem with hmem | hmem
        · exact ihBelow (step path _ node material found hI) hmem
        · exact ihRest hI hmem

/-- Below each place of a walk are the children of its node in order, without those
that are skipped. -/
theorem map_id_children (h : c.nodes.Consistent)
    (hs : Shown c path parent material children p trees q) {tree : Tree (Group α)}
    {way : List String} (hmem : (tree, way) ∈ routesFrom path.reverse trees) :
    ∃ node, c.nodes.get? tree.label.id = some node ∧
      tree.children.map (fun inner => inner.label.id) =
        node.children.filter fun id => c.nodes.contains id && !way.contains id := by
  obtain ⟨above, node, inherited, r, t, found, rfl, -, -, hbelow⟩ :=
    hs.at_place h (I := fun _ _ => True) (fun _ _ _ _ _ _ => trivial) trivial hmem
  refine ⟨node, found, ?_⟩
  rw [hbelow.map_id h]
  simp only [List.contains_reverse]

end Catalog.Shown

/-! ## The whole scene -/

namespace Catalog

variable [Angular α] {c : Catalog α}

/-- In a consistent dictionary that lists no child twice, a scene unfolds it. -/
theorem unfolds_of_consistent (h : c.nodes.Consistent)
    (hnodes : ∀ id node, c.nodes.get? id = some node → node.children.Nodup) (journal : Journal)
    {root : String} (hroot : c.nodes.contains root = true) (material : MaterialHandle α) :
    (c.instantiateAfter journal root material).1.Unfolds c.nodes root := by
  obtain ⟨q, hs, -⟩ := shown_instantiateAfter h journal root material
  generalize (c.instantiateAfter journal root material).1 = s at hs
  have hsimple : ∀ way, way ∈ s.ways ↔ c.nodes.SimplePath root way := by
    intro way
    refine (hs.mem_ways h).trans (Iff.trans ?_ (NodeDictionary.continues_root_iff h))
    constructor
    · rintro ⟨next, rest, rfl, hway⟩
      exact ⟨List.cons_ne_nil _ _, hway⟩
    · rintro ⟨hne, hway⟩
      cases way with
      | nil => exact absurd rfl hne
      | cons next rest => exact ⟨next, rest, rfl, hway⟩
  refine
    { single := ?_
      groups := s.groups_eq_map_routes
      simple := hsimple
      once := hs.nodup_ways h hnodes (List.nodup_singleton root)
      last := fun _ _ hmem => Scene.getLast?_of_mem_routes hmem
      parent := fun _ _ _ hmem hway => Scene.exists_parent_of_mem_routes hmem hway
      child := fun _ _ hmem _ hinner => Scene.mem_routes_of_child hmem hinner
      order := fun _ _ hmem => hs.map_id_children h hmem
      fresh := ?_
      depth := ?_ }
  · have hids := hs.map_id h
    rw [List.filter_cons, hroot, List.contains_nil, Bool.not_false, Bool.and_true, if_pos rfl,
      List.filter_nil] at hids
    obtain ⟨top, htop, hid⟩ := List.map_eq_singleton_iff.mp hids
    exact ⟨top, htop, hid⟩
  · intro tree way hmem g hg hid
    obtain ⟨between, hway⟩ := Scene.exists_way_of_below hmem hg
    have hnodup := ((hsimple _).mp hway).distinct
    rw [List.append_assoc, List.nodup_append] at hnodup
    have hlast : tree.label.id ∈ way :=
      List.mem_of_getLast? (Scene.getLast?_of_mem_routes hmem)
    exact hnodup.2.2 _ hlast g.id (by simp) hid.symm
  · intro level hlevel
    rw [Scene.levels_eq_map_ways] at hlevel
    obtain ⟨way, hway, rfl⟩ := List.mem_map.mp hlevel
    exact ((hsimple way).mp hway).length_le h

/-- A scene has one group for each simple path from its root, whatever the materials
and textures and whatever came up before. -/
theorem unfolds_instantiateAfter (nodes : List (Node α))
    (hnodes : ∀ node ∈ nodes, node.children.Nodup) (materials : MaterialTable α)
    (textures : TextureTable) (journal : Journal) (root : String)
    (hroot : (NodeDictionary.ofList nodes).contains root = true)
    (material : MaterialHandle α) :
    ((⟨.ofList nodes, materials, textures⟩ : Catalog α).instantiateAfter journal root
      material).1.Unfolds (.ofList nodes) root := by
  refine unfolds_of_consistent (NodeDictionary.consistent_ofList nodes) ?_ journal hroot material
  intro id node found
  rw [NodeDictionary.get?_ofList] at found
  exact hnodes node (List.mem_of_find?_eq_some found)

/-- A node that only leads to others. -/
def plainNode (id : String) (children : List String) : Node α :=
  ⟨id, "", [], none, none, false, false, children⟩

/-- Nodes with two ways to one of them, with ways back and with a child that is no
node. -/
def knot : List (Node Float32) :=
  [plainNode "root" ["left", "right", "root"], plainNode "left" ["shared"],
    plainNode "right" ["shared", "nowhere"], plainNode "shared" ["root", "left"]]

/-- A knot of four nodes unfolds to its simple paths. -/
theorem unfolds_knot :
    (∀ node ∈ knot, node.children.Nodup) ∧ (NodeDictionary.ofList knot).contains "root" = true ∧
      ((⟨.ofList knot, .empty, .empty⟩ : Catalog Float32).instantiateAfter .empty "root"
        (.free .neutral)).1.Unfolds (.ofList knot) "root" := by
  have hnodes : ∀ node ∈ knot, node.children.Nodup := by
    simp [knot, plainNode]
  have hroot : (NodeDictionary.ofList knot).contains "root" = true := by
    rw [(NodeDictionary.consistent_ofList knot).contains_iff_get?]
    simp only [NodeDictionary.get?_ofList]
    exact ⟨_, rfl⟩
  exact ⟨hnodes, hroot, unfolds_instantiateAfter knot hnodes .empty .empty .empty "root" hroot
    (.free .neutral)⟩

/-- A graph of records lists no child twice, so it is unfolded from any root. -/
theorem unfolds_ofRecords (g : Records) (start : String) (before : Journal)
    (materials : MaterialTable Float32) (textures : TextureTable) (journal : Journal)
    {root : String} (hroot : (NodeDictionary.ofRecords g start before).1.contains root = true)
    (material : MaterialHandle Float32) :
    ((⟨(NodeDictionary.ofRecords g start before).1, materials, textures⟩ :
      Catalog Float32).instantiateAfter journal root material).1.Unfolds
        (NodeDictionary.ofRecords g start before).1 root := by
  have hexplored := NodeDictionary.explored_ofRecords g start before
  exact unfolds_of_consistent hexplored.consistent (fun _ _ => hexplored.nodup_children) journal
    hroot material

end Catalog

end Scenery
