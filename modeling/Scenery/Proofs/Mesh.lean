import Scenery.Proofs.Shape.Faces

/-!
# Meshes that do not fit together

Anybody can put a mesh together, so its indices may name vertices that are not there, its
triangles may have a corner twice, one or two indices may be left over, and its attributes may
be too many or too few.

*Normals.*  The normals of triangles are added up at their corners.  A triangle that names a
vertex that is not there adds nothing (`Mesh.addFace_of_not_within`), and one adds nothing at a
vertex that is no corner of it (`Mesh.getElem?_addFace_of_not_mem`).  Both are kept by the loop
over all triangles.  So the normals are those of the mesh that is tidied first
(`Mesh.normalSums_tidy`), and where no triangle counts the sum stays zero.  A zero vector has no
direction among machine numbers, so there the normal is the one that stands in.

*Vertices.*  An attribute of a vertex is read where there is one, and is neutral otherwise
(`Supplies`).
-/

namespace Scenery

/-! ## Triangles that count -/

namespace Face

/-- The corners of a triangle. -/
def corners (f : Face) : List Nat := [f.a, f.b, f.c]

/-- The corners of a triangle are among so many vertices. -/
def Within (count : Nat) (f : Face) : Prop := ∀ i ∈ f.corners, i < count

instance (count : Nat) (f : Face) : Decidable (f.Within count) :=
  inferInstanceAs (Decidable (∀ i ∈ f.corners, i < count))

theorem facesOf_corners (f : Face) : facesOf f.corners = [f] := rfl

theorem facesOf_flatMap_corners (faces : List Face) : facesOf (faces.flatMap corners) = faces := by
  have whole : ∀ f ∈ faces, 3 ∣ f.corners.length := fun _ _ => Nat.dvd_refl 3
  rw [facesOf_flatMap whole]
  simp only [facesOf_corners, List.flatMap_singleton']

end Face

namespace Mesh

variable {α : Type} [Scalar α]

/-! ## Adding up normals -/

section

variable {positions sums : Array (Vec3 α)} {f : Face} {faces : List Face} {i : Nat}

theorem within_of_faceNormal? {n : Vec3 α} (h : faceNormal? positions f = some n) :
    f.Within positions.size := by
  simp only [faceNormal?, Option.bind_eq_bind, Option.bind_eq_some_iff] at h
  obtain ⟨p, hp, q, hq, r, hr, -⟩ := h
  simp only [Face.Within, Face.corners, List.forall_mem_cons]
  exact ⟨(Array.getElem?_eq_some_iff.mp hp).1, (Array.getElem?_eq_some_iff.mp hq).1,
    (Array.getElem?_eq_some_iff.mp hr).1, by simp⟩

/-- A triangle that names a vertex that is not there adds nothing. -/
theorem addFace_of_not_within (h : ¬ f.Within positions.size) :
    addFace positions sums f = sums := by
  cases hn : faceNormal? positions f with
  | none => simp only [addFace, hn]
  | some n => exact absurd (within_of_faceNormal? hn) h

/-- A triangle adds nothing at a vertex that is no corner of it. -/
theorem getElem?_addFace_of_not_mem (h : i ∉ f.corners) :
    (addFace positions sums f)[i]? = sums[i]? := by
  simp only [Face.corners, List.mem_cons, List.not_mem_nil, or_false, not_or] at h
  cases hn : faceNormal? positions f with
  | none => simp only [addFace, hn]
  | some n =>
      simp only [addFace, hn, Array.getElem?_modify]
      rw [if_neg (Ne.symm h.1), if_neg (Ne.symm h.2.1), if_neg (Ne.symm h.2.2)]

/-- Leaving out triangles that do not count makes no difference to the sums. -/
theorem foldl_addFace_filter (positions : Array (Vec3 α)) (faces : List Face)
    (sums : Array (Vec3 α)) :
    (faces.filter fun f => f.Within positions.size).foldl (addFace positions) sums =
      faces.foldl (addFace positions) sums := by
  induction faces generalizing sums with
  | nil => rfl
  | cons f faces ih =>
      by_cases h : f.Within positions.size
      · rw [List.filter_cons_of_pos (by simpa using h), List.foldl_cons, List.foldl_cons, ih]
      · rw [List.filter_cons_of_neg (by simpa using h), List.foldl_cons, addFace_of_not_within h,
          ih]

/-- The sum stays as it is where no triangle that counts has a corner. -/
theorem getElem?_foldl_addFace (h : ∀ f ∈ faces, f.Within positions.size → i ∉ f.corners) :
    (faces.foldl (addFace positions) sums)[i]? = sums[i]? := by
  induction faces generalizing sums with
  | nil => rfl
  | cons f faces ih =>
      obtain ⟨hf, hfaces⟩ := List.forall_mem_cons.mp h
      rw [List.foldl_cons, ih hfaces]
      by_cases hin : f.Within positions.size
      · exact getElem?_addFace_of_not_mem (hf hin)
      · rw [addFace_of_not_within hin]

end

/-! ## Normals -/

/-- A mesh without the triangles that name a vertex that is not there, and without the indices
left over. -/
def tidy (m : Mesh α) : Mesh α :=
  { m with
    indices := ((m.faces.filter fun f => f.Within m.positions.size).flatMap Face.corners).toArray }

omit [Scalar α] in
theorem faces_tidy (m : Mesh α) :
    m.tidy.faces = m.faces.filter fun f => f.Within m.positions.size :=
  Face.facesOf_flatMap_corners _

/-- The triangles that are tidied away add nothing to the sums. -/
theorem normalSums_tidy (m : Mesh α) : m.tidy.normalSums = m.normalSums := by
  rw [normalSums, faces_tidy]
  exact foldl_addFace_filter m.positions m.faces _

/-- No triangle that counts has a corner at a vertex. -/
def Unused (m : Mesh α) (i : Nat) : Prop :=
  ∀ f ∈ m.faces, f.Within m.positions.size → i ∉ f.corners

/-- A vertex that no triangle uses has no sum. -/
theorem normalSums_of_unused {m : Mesh α} {i : Nat} (h : m.Unused i) (hi : i < m.positions.size) :
    m.normalSums[i]? = some .zero := by
  rw [normalSums, getElem?_foldl_addFace h, Array.getElem?_replicate, if_pos hi]

/-- What becomes of a mesh when its normals are computed. -/
structure Smooths (m : Mesh α) (normals : Array (Vec3 α)) : Prop where
  /-- Nothing else changes. -/
  mesh : m.computeNormals = { m with normals := some normals }
  /-- There is one for each vertex. -/
  size : normals.size = m.positions.size
  /-- They are those of the mesh without what does not count. -/
  tidy : m.tidy.computeNormals.normals = some normals
  /-- A vertex of no triangle that counts points along the third axis. -/
  unused : ∀ i < m.positions.size, m.Unused i → normals[i]? = some ⟨0, 0, 1⟩

/-- The normals of a mesh can be computed, if a zero vector has no direction. -/
theorem exists_smooths (hzero : (Vec3.zero : Vec3 α).normalize? = none) (m : Mesh α) :
    ∃ normals, m.Smooths normals := by
  refine ⟨m.normalSums.map (Vec3.normalizeOr .unitZ), rfl, ?_, ?_, ?_⟩
  · rw [Array.size_map, size_normalSums, vertexCount]
  · rw [computeNormals, normalSums_tidy]
  · intro i hi h
    rw [Array.getElem?_map, normalSums_of_unused h hi, Option.map_some, Vec3.normalizeOr, hzero]
    rfl

/-- The zero vector of machine numbers has no direction: the reciprocal of its length is
infinite. -/
theorem normalize?_zero : (Vec3.zero : Vec3 Float32).normalize? = none := by
  rw [← Option.isNone_iff_eq_none]
  decide +kernel

/-- What becomes of a mesh when it is to have normals. -/
structure KeepsNormals (m : Mesh α) : Prop where
  /-- It has one for each vertex, and nothing else changes. -/
  normals : ∃ normals, m.ensureNormals = { m with normals := some normals } ∧
    normals.size = m.positions.size
  /-- Normals that are there stay if their number is right. -/
  kept : ∀ normals, m.normals = some normals → normals.size = m.positions.size →
    m.ensureNormals = m
  /-- Once is as good as twice. -/
  again : m.ensureNormals.ensureNormals = m.ensureNormals

theorem ensureNormals_of_size {m : Mesh α} {normals : Array (Vec3 α)}
    (h : m.normals = some normals) (hsize : normals.size = m.positions.size) :
    m.ensureNormals = m := by
  rw [ensureNormals, h, Option.any_some, if_pos (beq_iff_eq.mpr hsize)]

theorem exists_ensureNormals (m : Mesh α) :
    ∃ normals, m.ensureNormals = { m with normals := some normals } ∧
      normals.size = m.positions.size := by
  by_cases h : m.normals.any fun n => n.size == m.positions.size
  · obtain ⟨normals, hnormals, hsize⟩ := (Option.any_eq_true ..).mp h
    refine ⟨normals, ?_, beq_iff_eq.mp hsize⟩
    rw [ensureNormals_of_size hnormals (beq_iff_eq.mp hsize), ← hnormals]
  · refine ⟨m.normalSums.map (Vec3.normalizeOr .unitZ), ?_, ?_⟩
    · rw [ensureNormals, if_neg h]
      rfl
    · rw [Array.size_map, size_normalSums, vertexCount]

/-- Normals that are there for every vertex stay, and others are computed. -/
theorem keepsNormals (m : Mesh α) : m.KeepsNormals where
  normals := m.exists_ensureNormals
  kept _ := ensureNormals_of_size
  again := by
    obtain ⟨normals, hmesh, hsize⟩ := m.exists_ensureNormals
    rw [hmesh]
    exact ensureNormals_of_size rfl hsize

/-! ## Vertices -/

/-- What a vertex has of an attribute that is listed: its own value if there is one, and a
neutral one otherwise. -/
inductive Supplies {β : Type} (listed : Option (Array β)) (i : Nat) (neutral : β) : β → Prop where
  | own {values : Array β} {b : β} (given : listed = some values)
      (inRange : values[i]? = some b) : Supplies listed i neutral b
  | neutral (missing : ∀ values, listed = some values → values.size ≤ i) :
      Supplies listed i neutral neutral

omit [Scalar α] in
theorem supplies_getD {β : Type} (listed : Option (Array β)) (i : Nat) (neutral : β) :
    Supplies listed i neutral ((listed.bind (·[i]?)).getD neutral) := by
  cases listed with
  | none => exact .neutral fun _ h => by cases h
  | some values =>
      rw [Option.bind_some]
      cases h : values[i]? with
      | some b => exact .own rfl h
      | none =>
          refine .neutral fun _ hvalues => ?_
          cases hvalues
          exact Array.getElem?_eq_none_iff.mp h

/-- A vertex has the place and the attributes that a mesh has for a number. -/
structure VertexAt (m : Mesh α) (i : Nat) (v : Vertex α) : Prop where
  position : m.positions[i]? = some v.position
  normal : Supplies m.normals i ⟨0, 0, 1⟩ v.normal
  uv : Supplies m.uvs i ⟨0, 0⟩ v.uv
  color : Supplies m.colors i ⟨1, 1, 1, 1⟩ v.color

theorem size_vertices (m : Mesh α) : m.vertices.size = m.positions.size := by
  rw [vertices, Array.size_mapIdx]

theorem vertexAt_of_getElem? {m : Mesh α} {i : Nat} {v : Vertex α} (h : m.vertices[i]? = some v) :
    m.VertexAt i v := by
  rw [vertices, Array.getElem?_mapIdx, Option.map_eq_some_iff] at h
  obtain ⟨p, hp, rfl⟩ := h
  exact ⟨hp, supplies_getD .., supplies_getD .., supplies_getD ..⟩

/-- However its lists fit together, a mesh of machine numbers has normals computed and ensured
for all vertices, and all vertices with their attributes. -/
theorem smooths_and_supplies (m : Mesh Float32) :
    (∃ normals, m.Smooths normals) ∧ m.KeepsNormals ∧
      m.vertices.size = m.positions.size ∧ ∀ i v, m.vertices[i]? = some v → m.VertexAt i v :=
  ⟨exists_smooths normalize?_zero m, m.keepsNormals, m.size_vertices,
    fun _ _ => vertexAt_of_getElem?⟩

end Mesh

end Scenery
