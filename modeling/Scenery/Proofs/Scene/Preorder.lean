import Scenery.Listing
import Scenery.Proofs.Tree.Addresses

/-!
# Going through a scene

Four things go through the groups of a scene: the visit that hands down matrices, the counts,
the search for an id, and the listing.  Each does so in its own way.  `Scene.Enumerates` says
that all of them have the groups in one order, which is told by the addresses of the groups
alone (`Tree.Preorder`).

The listing hands down how far to indent.  That is the same as counting how deep a scan is
(`Listing.forestLines_eq`), so a group is indented by the length of its address, and what is in
the group by one more.
-/

namespace Scenery

/-! ## The listing -/

namespace Listing

/-- The line of a group without the blanks before it. -/
def headText (g : Group Float32) : String :=
  g.id ++ s!" [material: {materialName g.material}" ++
    s!", cast: {g.castShadows}, receive: {g.receiveShadows}]"

/-- The line of something in a group without the blanks before it. -/
def objectText : SceneObject Float32 → String
  | .mesh i =>
      s!"mesh: {i.mesh.vertexCount} vertices" ++
        s!", {i.mesh.triangleCount} triangles ({appearance i.material})"
  | .light l =>
      "light: " ++ lightKind l.kind ++ " intensity " ++ places l.intensity ++
        " at " ++ point l.position

/-- A line that is indented by a number of steps, two blanks each. -/
def indented (steps : Nat) (text : String) : String :=
  String.ofList (List.replicate (2 * steps) ' ') ++ text

/-- The lines of a group, indented by a number of steps. -/
def indentedLines (steps : Nat) (g : Group Float32) : List String :=
  indented steps (headText g) ::
    g.objects.map fun object => indented (steps + 1) (objectText object)

theorem headLine_eq (depth : Nat) (g : Group Float32) :
    headLine depth g = indented (depth + 1) (headText g) := by
  simp only [headLine, indented, headText, indent, String.append_assoc]

theorem objectLine_eq (depth : Nat) (object : SceneObject Float32) :
    objectLine depth object = indented (depth + 2) (objectText object) := by
  cases object with
  | mesh i => simp only [objectLine, indented, objectText, indent, String.append_assoc]
  | light l => simp only [objectLine, indented, objectText, indent, String.append_assoc]

theorem groupLines_eq (depth : Nat) (g : Group Float32) :
    groupLines depth g = indentedLines (depth + 1) g := by
  rw [groupLines, indentedLines, headLine_eq, funext (objectLine_eq depth)]

mutual

theorem treeLines_eq : ∀ (depth : Nat) (t : Tree (Group Float32)),
    treeLines depth t = (Tree.scan (fun n _ => n + 1) depth t).flatMap
      fun item => indentedLines item.2 item.1
  | depth, .node g ts => by
      rw [treeLines, Tree.scan, List.flatMap_cons, groupLines_eq, forestLines_eq (depth + 1) ts]

/-- The listing lists the lines of each group, indented by how deep it is. -/
theorem forestLines_eq : ∀ (depth : Nat) (ts : List (Tree (Group Float32))),
    forestLines depth ts = (Tree.scanAll (fun n _ => n + 1) depth ts).flatMap
      fun item => indentedLines item.2 item.1
  | depth, [] => by rw [forestLines, Tree.scanAll, List.flatMap_nil]
  | depth, t :: ts => by
      rw [forestLines, Tree.scanAll, List.flatMap_append, treeLines_eq depth t,
        forestLines_eq depth ts]

end

end Listing

/-! ## Scenes -/

/-- Something in a group is a mesh. -/
def SceneObject.isMesh {α : Type} : SceneObject α → Bool
  | .mesh _ => true
  | .light _ => false

/-- Something in a group is a light. -/
def SceneObject.isLight {α : Type} : SceneObject α → Bool
  | .mesh _ => false
  | .light _ => true

namespace Group

variable {α : Type}

theorem length_meshes (g : Group α) :
    g.meshes.length = (g.objects.filter SceneObject.isMesh).length := by
  rw [meshes, List.length_filterMap_eq_countP, List.countP_eq_length_filter]
  congr 2
  funext object
  cases object <;> rfl

theorem length_lights (g : Group α) :
    g.lights.length = (g.objects.filter SceneObject.isLight).length := by
  rw [lights, List.length_filterMap_eq_countP, List.countP_eq_length_filter]
  congr 2
  funext object
  cases object <;> rfl

end Group

namespace Scene

variable {α : Type} [Angular α]

/-- All that goes through a scene goes through one list of its groups. -/
structure Enumerates (s : Scene α) (listed : List (List Nat × Tree (Group α))) : Prop where
  /-- The list has each group once, parents first. -/
  preorder : Tree.Preorder s.trees listed
  /-- A visit comes to these groups, in this order. -/
  visit : s.visit.map (·.1) = listed.map fun place => place.2.label
  /-- The groups that are counted are those that are visited, -/
  groupCount : s.groupCount = s.visit.length
  /-- and so are the meshes in them -/
  meshCount : s.meshCount = (s.visit.flatMap fun v => v.1.objects.filter SceneObject.isMesh).length
  /-- and the lights. -/
  lightCount :
    s.lightCount = (s.visit.flatMap fun v => v.1.objects.filter SceneObject.isLight).length
  /-- A search for an id gives the first group of the id, with all that is below it, -/
  find : ∀ id, s.find? id = (listed.find? fun place => place.2.label.id == id).map (·.2)
  /-- and nothing exactly if no group of the id is visited. -/
  find_none : ∀ id, s.find? id = none ↔ ∀ v ∈ s.visit, v.1.id ≠ id

theorem map_fst_visit (s : Scene α) : s.visit.map (·.1) = s.groups := Tree.map_fst_scanAll ..

omit [Angular α] in
theorem groups_eq_map_placesAll (s : Scene α) :
    s.groups = (Tree.placesAll s.trees).map fun place => place.2.label :=
  Tree.labels_eq_map_placesAll s.trees

theorem flatMap_visit {β : Type} (s : Scene α) (f : Group α → List β) :
    (s.visit.flatMap fun v => f v.1) = s.groups.flatMap f := by
  rw [← map_fst_visit, List.flatMap_map]

/-- What visits a scene, counts its groups, finds one or lists them goes through the same places. -/
theorem enumerates (s : Scene α) : s.Enumerates (Tree.placesAll s.trees) where
  preorder := Tree.preorder_placesAll s.trees
  visit := by rw [map_fst_visit, groups_eq_map_placesAll]
  groupCount := by rw [groupCount, ← map_fst_visit, List.length_map]
  meshCount := by
    rw [flatMap_visit s fun g => g.objects.filter SceneObject.isMesh, meshCount,
      List.length_flatMap, List.length_flatMap]
    simp only [Group.length_meshes]
  lightCount := by
    rw [flatMap_visit s fun g => g.objects.filter SceneObject.isLight, lightCount,
      List.length_flatMap, List.length_flatMap]
    simp only [Group.length_lights]
  find id := Tree.findAll?_eq_find? _ s.trees
  find_none id := by
    have hvisit : (∀ v ∈ s.visit, v.1.id ≠ id) ↔ ∀ g ∈ s.groups, g.id ≠ id := by
      rw [← map_fst_visit, List.forall_mem_map]
    rw [find?, Tree.findAll?_eq_find?, Option.map_eq_none_iff, List.find?_eq_none, hvisit,
      groups_eq_map_placesAll, List.forall_mem_map]
    simp only [beq_iff_eq]

/-- The lines of a listing are those of the groups in their places, indented by depth. -/
theorem forestLines_eq_placesAll (trees : List (Tree (Group Float32))) :
    Listing.forestLines 0 trees = (Tree.placesAll trees).flatMap
      fun place => Listing.indentedLines place.1.length place.2.label := by
  rw [Listing.forestLines_eq, Tree.scanAll_eq_map_withinAll, Tree.withinAll_depth, List.map_map,
    List.flatMap_map]
  rfl

/-- Any scene has a list of its groups that all that goes through the scene goes through.  The
listing lists the groups in this order too, each indented by the length of its address. -/
theorem enumerates_and_lists (s : Scene Float32) :
    ∃ listed, s.Enumerates listed ∧ Listing.forestLines 0 s.trees = listed.flatMap
      fun place => Listing.indentedLines place.1.length place.2.label :=
  ⟨_, s.enumerates, forestLines_eq_placesAll s.trees⟩

end Scene

end Scenery
