import Scenery.Proofs.Bounds
import Scenery.Proofs.Tree
import Scenery.Scene.Basic

/-!
# The box around a scene

The box around a scene is computed from the boxes around its meshes, and each of
these is moved into the world by its corners.  So it may be larger than need be.
What can be relied on is stated in `Scene.Encloses`: the box holds every vertex of
every mesh where the world puts it, and it is empty only if there is no vertex.

This is stated of exact numbers.  Then all that is asked of a scene is that its
numbers are no infinities and that the box of each mesh is the one around its
vertices, which it is when the mesh is made (`Mesh.fitted_ofVertices`).

The groups may be placed by any matrices at all (`Scene.visitAt`), such that shear
or flatten as well, and the ones that the program takes from the transforms of the
groups are a case of this.  The matrix of a group in the world is a product of
finite matrices along the way to it, so it is finite (`Scene.finite_of_mem_visitAt`).
-/

namespace Scenery

open Exact

/-! ## Meshes -/

section

variable [Approximation]

/-- The box of a mesh is the one around its vertices, and these are at finite
places. -/
structure Mesh.Fitted (m : Mesh Exact) : Prop where
  bounds : m.bounds = .enclosing m.positions.toList
  finite : ∀ p ∈ m.positions, p.Finite

theorem Mesh.fitted_ofVertices {positions : Array (Vec3 Exact)}
    (h : ∀ p ∈ positions, p.Finite) (indices : Array Nat)
    (normals : Option (Array (Vec3 Exact))) : (ofVertices positions indices normals).Fitted :=
  ⟨rfl, h⟩

namespace MeshInstance

/-- The mesh is fitted, and shifted by numbers. -/
structure Fitted (i : MeshInstance Exact) : Prop where
  mesh : i.mesh.Fitted
  position : i.position.Finite

variable {i : MeshInstance Exact}

/-- The moved box of a mesh holds its moved vertices. -/
theorem Fitted.holds (h : i.Fitted) {world : Mat4 Exact} (hworld : world.Finite)
    {p : Vec3 Exact} (hp : p ∈ i.mesh.positions) :
    (i.mesh.bounds.moved (world * i.localMatrix)).Holds ((world * i.localMatrix).apply p) := by
  have hmatrix : (world * i.localMatrix).Finite :=
    hworld.mul (Mat4.finite_shifting h.position)
  have hlist : p ∈ i.mesh.positions.toList := Array.mem_toList_iff.mpr hp
  have hfinite : i.mesh.bounds.Finite := by
    rw [h.mesh.bounds]
    exact Bounds.finite_enclosing (List.ne_nil_of_mem hlist)
      fun q hq => h.mesh.finite q (Array.mem_toList_iff.mp hq)
  have hold : i.mesh.bounds.Holds p := by
    rw [h.mesh.bounds]
    exact Bounds.holds_enclosing hlist
  exact hold.moved hfinite (h.mesh.finite p hp) hmatrix

/-- The box of a mesh without vertices stays empty. -/
theorem Fitted.moved_eq_empty (h : i.Fitted) (hnone : i.mesh.positions = #[]) (m : Mat4 Exact) :
    i.mesh.bounds.moved m = .empty := by
  have hbounds : i.mesh.bounds = .empty := by
    rw [h.mesh.bounds, hnone]
    rfl
  rw [hbounds, Bounds.moved_empty]

end MeshInstance

end

namespace Scene

/-! ## Groups placed by any matrices -/

section

variable {α : Type} [Angular α]

/-- The groups with their matrices in the world, for any matrices of the groups
within each other. -/
def visitAt (place : Group α → Mat4 α) (s : Scene α) : List (Group α × Mat4 α) :=
  Tree.scanAll (fun world g => world * place g) .identity s.trees

/-- The box around all meshes in the world, for any matrices of the groups within
each other. -/
def boundsAt (place : Group α → Mat4 α) (s : Scene α) : Bounds α :=
  ((s.visitAt place).flatMap fun (g, world) => boundsIn world g).foldl .union .empty

theorem visitAt_localMatrix (s : Scene α) : s.visitAt Group.localMatrix = s.visit := rfl

theorem boundsAt_localMatrix (s : Scene α) : s.boundsAt Group.localMatrix = s.worldBounds := rfl

end

section

variable [Approximation] {s : Scene Exact} {place : Group Exact → Mat4 Exact}

theorem exists_mem_visitAt (place : Group Exact → Mat4 Exact) {g : Group Exact}
    (h : g ∈ s.groups) : ∃ world, (g, world) ∈ s.visitAt place := by
  rw [groups, ← Tree.map_fst_scanAll (fun world g => world * place g) .identity] at h
  obtain ⟨⟨_, world⟩, hmem, rfl⟩ := List.mem_map.mp h
  exact ⟨world, hmem⟩

theorem mem_groups_of_mem_visitAt {g : Group Exact} {world : Mat4 Exact}
    (h : (g, world) ∈ s.visitAt place) : g ∈ s.groups := by
  rw [groups, ← Tree.map_fst_scanAll (fun world g => world * place g) .identity]
  exact List.mem_map_of_mem (f := Prod.fst) h

theorem finite_of_mem_visitAt (hplace : ∀ g ∈ s.groups, (place g).Finite) {g : Group Exact}
    {world : Mat4 Exact} (h : (g, world) ∈ s.visitAt place) : world.Finite :=
  Tree.scanAll_invariant (P := Mat4.Finite) Mat4.finite_identity
    (fun g hg _ hworld => hworld.mul (hplace g hg)) _ h

/-- A box is right for the groups of a scene and their matrices in the world.  It
holds the vertices where the world puts them, and is empty only if there are none. -/
structure Encloses (s : Scene Exact) (visited : List (Group Exact × Mat4 Exact))
    (box : Bounds Exact) : Prop where
  holds : ∀ g world, (g, world) ∈ visited → ∀ i ∈ g.meshes, ∀ p ∈ i.mesh.positions,
    box.Holds ((world * i.localMatrix).apply p)
  isEmpty_iff : box.isEmpty = true ↔ ∀ g ∈ s.groups, ∀ i ∈ g.meshes, i.mesh.positions = #[]

/-- The box around a scene encloses all its placed vertices, whatever places the groups. -/
theorem encloses_boundsAt (hmeshes : ∀ g ∈ s.groups, ∀ i ∈ g.meshes, i.Fitted)
    (hplace : ∀ g ∈ s.groups, (place g).Finite) :
    s.Encloses (s.visitAt place) (s.boundsAt place) := by
  have holds : ∀ g world, (g, world) ∈ s.visitAt place → ∀ i ∈ g.meshes,
      ∀ p ∈ i.mesh.positions, (s.boundsAt place).Holds ((world * i.localMatrix).apply p) := by
    intro g world hvisit i hi p hp
    have hfitted := hmeshes g (mem_groups_of_mem_visitAt hvisit) i hi
    exact Bounds.holds_foldl_union <| Or.inr ⟨_,
      List.mem_flatMap.mpr ⟨(g, world), hvisit, List.mem_map_of_mem hi⟩,
      hfitted.holds (finite_of_mem_visitAt hplace hvisit) hp⟩
  refine ⟨holds, ?_, ?_⟩
  · intro hempty g hg i hi
    obtain ⟨world, hvisit⟩ := exists_mem_visitAt place hg
    apply Array.eq_empty_iff_forall_not_mem.mpr
    intro p hp
    have hfull := (holds g world hvisit i hi p hp).isEmpty_eq_false
    rw [hempty] at hfull
    cases hfull
  · intro hnone
    have hboxes : ∀ b ∈ (s.visitAt place).flatMap (fun (g, world) => boundsIn world g),
        b = .empty := by
      intro b hb
      obtain ⟨⟨g, world⟩, hvisit, hin⟩ := List.mem_flatMap.mp hb
      obtain ⟨i, hi, rfl⟩ := List.mem_map.mp hin
      have hg := mem_groups_of_mem_visitAt hvisit
      exact (hmeshes g hg i hi).moved_eq_empty (hnone g hg i hi) _
    rw [boundsAt, Bounds.foldl_union_empty hboxes, Bounds.isEmpty_empty]

/-- The box around a scene encloses it, however the groups are placed, and so it does
where their transforms place them. -/
theorem encloses_worldBounds (s : Scene Exact)
    (hmeshes : ∀ g ∈ s.groups, ∀ i ∈ g.meshes, i.Fitted) :
    (∀ place : Group Exact → Mat4 Exact, (∀ g ∈ s.groups, (place g).Finite) →
      s.Encloses (s.visitAt place) (s.boundsAt place)) ∧
    ((∀ g ∈ s.groups, g.transform.Finite) → s.Encloses s.visit s.worldBounds) := by
  constructor
  · intro place hplace
    exact encloses_boundsAt hmeshes hplace
  · intro htransforms
    rw [← visitAt_localMatrix, ← boundsAt_localMatrix]
    exact encloses_boundsAt hmeshes fun g hg => (htransforms g hg).matrix

end

/-! ## A turned triangle -/

/-- Sines and cosines that are right for no turn and for a quarter of one. -/
@[reducible] def quarters : Approximation where
  sqrt q := q
  sin angle := if angle = 0 then 0 else 1
  cos angle := if angle = 0 then 1 else 0
  halfTurn := 355 / 113

section

variable [Approximation]

/-- The triangle of the origin and the ends of two axes, shifted along the third. -/
def raised : MeshInstance Exact where
  handle := ⟨0, .ofVertices
    #[⟨num 0, num 0, num 0⟩, ⟨num 1, num 0, num 0⟩, ⟨num 0, num 1, num 0⟩] #[0, 1, 2] none⟩
  material := .vertexColors
  position := ⟨num 0, num 0, num 1⟩
  castShadows := false
  receiveShadows := false

/-- A group with the triangle, stretched along the first axis. -/
def stretched : Group Exact :=
  { Group.bare "stretched" (.free .neutral) with
    transform := ⟨[⟨.scale, ⟨num 2, num 1, num 1⟩⟩]⟩
    objects := [.mesh raised] }

/-- A group that is turned half around the third axis and shifted along the first. -/
def turned : Group Exact :=
  { Group.bare "turned" (.free .neutral) with
    transform := ⟨[⟨.translate, ⟨num 10, num 0, num 0⟩⟩, ⟨.rotate, ⟨num 0, num 0, num 180⟩⟩]⟩ }

/-- The one group within the other. -/
def turnedTriangle : Scene Exact := ⟨[.node turned [.node stretched []]], .empty⟩

/-- A matrix that is no transform's: it shifts what is higher along the second axis
further along the first. -/
def sheared : Mat4 Exact := { Mat4.identity with c1 := ⟨num 1, num 1, num 0, num 0⟩ }

end

theorem encloses_turnedTriangle :
    letI := quarters
    turnedTriangle.worldBounds.isEmpty = false ∧
      turnedTriangle.worldBounds.Holds ⟨num 8, num 0, num 1⟩ ∧
      (turnedTriangle.boundsAt fun _ => sheared).Holds ⟨num 2, num 1, num 1⟩ := by
  let _ : Approximation := quarters
  have hmeshes : ∀ g ∈ turnedTriangle.groups, ∀ i ∈ g.meshes, i.Fitted := by
    intro g hg i hi
    have hi : i = raised := by
      rcases List.mem_cons.mp hg with rfl | hg
      · cases hi
      · obtain rfl := List.mem_singleton.mp hg
        exact List.mem_singleton.mp hi
    rw [hi]
    refine ⟨Mesh.fitted_ofVertices ?_ _ _, .num 0, .num 0, .num 1⟩
    intro p hp
    simp only [List.mem_toArray, List.mem_cons, List.not_mem_nil, or_false] at hp
    rcases hp with rfl | rfl | rfl <;> exact ⟨.num _, .num _, .num _⟩
  have hsheared : (sheared : Mat4 Exact).Finite :=
    { Mat4.finite_identity with c1 := ⟨.num 1, .num 1, .num 0, .num 0⟩ }
  have htransforms : ∀ g ∈ turnedTriangle.groups, g.transform.Finite := by
    intro g hg step hstep
    rcases List.mem_cons.mp hg with rfl | hg
    · rcases List.mem_cons.mp hstep with rfl | hstep
      · exact ⟨.num 10, .num 0, .num 0⟩
      · obtain rfl := List.mem_singleton.mp hstep
        exact ⟨.num 0, .num 0, .num 180⟩
    · obtain rfl := List.mem_singleton.mp hg
      obtain rfl := List.mem_singleton.mp hstep
      exact ⟨.num 2, .num 1, .num 1⟩
  obtain ⟨hany, hown⟩ := encloses_worldBounds turnedTriangle hmeshes
  have hin := (hown htransforms).holds stretched _ (.tail _ (.head _)) raised (.head _)
    ⟨num 1, num 0, num 0⟩ (Array.mem_of_getElem? (i := 1) rfl)
  have hin' := (hany (fun _ => sheared) fun _ _ => hsheared).holds stretched _ (.tail _ (.head _))
    raised (.head _) ⟨num 0, num 1, num 0⟩ (Array.mem_of_getElem? (i := 2) rfl)
  have hplace : ((Mat4.identity * turned.localMatrix * stretched.localMatrix) *
      raised.localMatrix).apply ⟨num 1, num 0, num 0⟩ = ⟨num 8, num 0, num 1⟩ := by
    decide +kernel
  have hplace' : ((Mat4.identity * sheared * sheared) *
      raised.localMatrix).apply ⟨num 0, num 1, num 0⟩ = ⟨num 2, num 1, num 1⟩ := by
    decide +kernel
  refine ⟨hin.isEmpty_eq_false, ?_, ?_⟩
  · exact hplace ▸ hin
  · exact hplace' ▸ hin'

end Scene

end Scenery
