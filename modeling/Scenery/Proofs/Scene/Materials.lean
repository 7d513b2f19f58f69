import Scenery.Proofs.Scene.Routes

/-!
# Materials along the ways

A node may name a material, and the groups below take it over until another node
names one.  `Catalog.materialAlong` goes down a way with the material that is handed
on.  `Scene.Dressed` says what the groups of a scene get in this way: the material of
the last node on the way whose name is known, or else the one the root was shown
with.  Names that are not known make no difference.

*Groups along ways.*  A group is made from its node and the material that comes down
to the end of the way before it, and from nothing else that was shown
(`Shown.exists_group`).  A figure is built once in a pass, but what is remembered of
it holds no material.  So the meshes of two groups of one node look as the ways to
the two groups say.
-/

namespace Scenery

variable {α : Type}

namespace Catalog

variable {c : Catalog α}

/-! ## Materials handed down -/

/-- The material that the node of an id names, if it names a known one. -/
def ownMaterial? (c : Catalog α) (id : String) : Option (MaterialHandle α) :=
  (c.nodes.get? id).bind fun node => node.materialRef.bind c.materials.lookup

/-- The material at the end of a way, if one comes down to its start. -/
def materialAlong (c : Catalog α) (material : MaterialHandle α) (way : List String) :
    MaterialHandle α :=
  way.foldl (fun inherited id => (c.ownMaterial? id).getD inherited) material

theorem materialAlong_append (material : MaterialHandle α) (before after : List String) :
    c.materialAlong material (before ++ after) =
      c.materialAlong (c.materialAlong material before) after :=
  List.foldl_append

/-- The material of a node is the one at the end of the way to it. -/
theorem effective_materialAlong {id : String} {node : Node α} (found : c.nodes.get? id = some node)
    (material : MaterialHandle α) (before : List String) :
    c.effective node (c.materialAlong material before) =
      c.materialAlong material (before ++ [id]) := by
  have hown : c.ownMaterial? id = node.materialRef.bind c.materials.lookup := by
    unfold ownMaterial?
    rw [found, Option.bind_some]
  rw [materialAlong_append]
  exact congrArg (fun own => own.getD (c.materialAlong material before)) hown.symm

/-- Nodes that name no known material hand on what comes down to them. -/
theorem materialAlong_of_none (material : MaterialHandle α) {way : List String}
    (h : ∀ id ∈ way, c.ownMaterial? id = none) : c.materialAlong material way = material := by
  induction way with
  | nil => rfl
  | cons id rest ih =>
      have hstep : c.materialAlong material (id :: rest) =
          c.materialAlong ((c.ownMaterial? id).getD material) rest := rfl
      rw [hstep, h id (List.mem_cons_self ..), Option.getD_none]
      exact ih fun other hother => h other (List.mem_cons_of_mem _ hother)

/-- The last node that names a known material decides. -/
theorem materialAlong_of_last (material : MaterialHandle α) {before after : List String}
    {id : String} {own : MaterialHandle α} (hown : c.ownMaterial? id = some own)
    (hafter : ∀ other ∈ after, c.ownMaterial? other = none) :
    c.materialAlong material (before ++ id :: after) = own := by
  have hstep : c.materialAlong (c.materialAlong material before) (id :: after) =
      c.materialAlong ((c.ownMaterial? id).getD (c.materialAlong material before)) after := rfl
  rw [materialAlong_append, hstep, hown, Option.getD_some]
  exact materialAlong_of_none own hafter

/-! ## Meshes of a group -/

/-- How the mesh of a figure looks in a group of a material. -/
inductive Looks (c : Catalog α) (material : MaterialHandle α) :
    Figure α → MeshMaterial α → Prop where
  /-- A polygon has colors of its own. -/
  | polygon (g : Polygon α) : Looks c material (.polygon g) .vertexColors
  /-- A screen shows its video. -/
  | video (v : Video α) :
      Looks c material (.video v) (.video (c.textures.lookup (Text.lower v.textureRef)))
  /-- All else looks as the group says. -/
  | shared {figure : Figure α} (notPolygon : ∀ g, figure ≠ .polygon g)
      (notVideo : ∀ v, figure ≠ .video v) : Looks c material figure (.shared material)

theorem looks_appearance (material : MaterialHandle α) (figure : Figure α) :
    c.Looks material figure (c.appearance material figure) := by
  cases figure with
  | polygon g => exact .polygon g
  | video v => exact .video v
  | _ => exact .shared (fun _ h => by cases h) (fun _ h => by cases h)

variable [Angular α]

/-- A mesh of a group is that of the figure of its node, and looks as it should. -/
theorem looks_of_mem_meshes {node : Node α} {inherited : MaterialHandle α} {p : Pass α}
    {i : MeshInstance α} (hi : i ∈ (c.group node inherited p).1.meshes) :
    ∃ figure, node.geometry = some (.figure figure) ∧
      c.Looks (c.effective node inherited) figure i.material := by
  generalize hp : (c.unknownMaterial? node).elim p p.tell = start
  have hobject : (c.object? node (c.effective node inherited) start).1 = some (.mesh i) := by
    obtain ⟨object, hmem, hmesh⟩ := List.mem_filterMap.mp hi
    cases object with
    | light l => cases hmesh
    | mesh other =>
        obtain rfl : other = i := Option.some.inj hmesh
        rw [← hp]
        exact Option.mem_toList.mp hmem
  cases hg : node.geometry with
  | none =>
      unfold object? at hobject
      simp only [hg] at hobject
      cases hobject
  | some geometry =>
      cases geometry with
      | lamp lamp =>
          unfold object? at hobject
          simp only [hg] at hobject
          split at hobject <;> cases hobject
      | figure figure =>
          refine ⟨figure, rfl, ?_⟩
          unfold object? at hobject
          simp only [hg] at hobject
          split at hobject
          next => cases hobject
          next => cases hobject
          next =>
            obtain rfl := SceneObject.mesh.inj (Option.some.inj hobject)
            exact looks_appearance _ figure

/-! ## Groups along ways -/

/-- Each group of a walk from a root is made from its node, with the material along the
way to it. -/
theorem Shown.exists_group (h : c.nodes.Consistent) {children : List String} {parent : String}
    {default : MaterialHandle α} {p q : Pass α} {trees : List (Tree (Group α))}
    (hs : Shown c [] parent default children p trees q) {tree : Tree (Group α)}
    {way : List String} (hmem : (tree, way) ∈ Scene.routesFrom [] trees) :
    ∃ node inherited r, c.nodes.get? tree.label.id = some node ∧
      c.effective node inherited = c.materialAlong default way ∧
      tree.label = (c.group node inherited r).1 := by
  have hstep : ∀ path id node material, c.nodes.get? id = some node →
      material = c.materialAlong default path.reverse →
        c.effective node material = c.materialAlong default (id :: path).reverse := by
    intro path id node material found hmaterial
    rw [hmaterial, effective_materialAlong found, List.reverse_cons]
  obtain ⟨above, node, inherited, r, t, found, rfl, hinherited, hlabel, -⟩ :=
    hs.at_place h (I := fun path material => material = c.materialAlong default path.reverse)
      hstep rfl hmem
  exact ⟨node, inherited, r, found, hstep above _ node inherited found hinherited, hlabel⟩

end Catalog

/-- The groups of a scene have the materials that come down their ways, from the one
the root was shown with. -/
structure Scene.Dressed (s : Scene α) (c : Catalog α) (default : MaterialHandle α) : Prop where
  /-- The material of a group depends on the way to it alone. -/
  along : ∀ tree way, (tree, way) ∈ s.routes →
    tree.label.material = c.materialAlong default way
  /-- It is that of the last node on the way that names a known one. -/
  named : ∀ tree before id after own, (tree, before ++ id :: after) ∈ s.routes →
    c.ownMaterial? id = some own → (∀ other ∈ after, c.ownMaterial? other = none) →
      tree.label.material = own
  /-- If there is no such node, it is the one the root was shown with. -/
  unnamed : ∀ tree way, (tree, way) ∈ s.routes → (∀ id ∈ way, c.ownMaterial? id = none) →
    tree.label.material = default
  /-- The meshes look as the figure of the node and the material say. -/
  meshes : ∀ tree way, (tree, way) ∈ s.routes → ∀ i ∈ tree.label.meshes,
    ∃ node figure, c.nodes.get? tree.label.id = some node ∧
      node.geometry = some (.figure figure) ∧ c.Looks tree.label.material figure i.material

namespace Catalog

variable [Angular α] {c : Catalog α}

/-- Over a consistent dictionary every group and every mesh of a tree is dressed by its way. -/
theorem dressed_of_consistent (h : c.nodes.Consistent) (journal : Journal) (root : String)
    (default : MaterialHandle α) :
    (c.instantiateAfter journal root default).1.Dressed c default := by
  obtain ⟨q, hs, -⟩ := shown_instantiateAfter h journal root default
  generalize (c.instantiateAfter journal root default).1 = s at hs
  have halong : ∀ tree way, (tree, way) ∈ s.routes →
      tree.label.material = c.materialAlong default way := by
    intro tree way hmem
    obtain ⟨node, inherited, r, -, hmaterial, hlabel⟩ := hs.exists_group h hmem
    rw [← hmaterial, hlabel]
    rfl
  refine ⟨halong, ?_, ?_, ?_⟩
  · intro tree before id after own hmem hown hafter
    rw [halong tree _ hmem]
    exact materialAlong_of_last default hown hafter
  · intro tree way hmem hnone
    rw [halong tree way hmem]
    exact materialAlong_of_none default hnone
  · intro tree way hmem i hi
    obtain ⟨node, inherited, r, found, hmaterial, hlabel⟩ := hs.exists_group h hmem
    rw [hlabel] at hi
    obtain ⟨figure, hfigure, hlooks⟩ := looks_of_mem_meshes hi
    refine ⟨node, figure, found, hfigure, ?_⟩
    rw [halong tree way hmem, ← hmaterial]
    exact hlooks

/-- Whatever nodes, materials and textures there are, and whatever came up before, each
group gets its material from the way to it. -/
theorem dressed_instantiateAfter (nodes : List (Node α)) (materials : MaterialTable α)
    (textures : TextureTable) (journal : Journal) (root : String) (default : MaterialHandle α) :
    ((⟨.ofList nodes, materials, textures⟩ : Catalog α).instantiateAfter journal root
      default).1.Dressed ⟨.ofList nodes, materials, textures⟩ default :=
  dressed_of_consistent (NodeDictionary.consistent_ofList nodes) journal root default

end Catalog

end Scenery
