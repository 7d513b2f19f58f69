import Mathlib.Tactic
import Scenery.Shape.Build

/-!
# How many vertices a figure has

The number of vertices of a mesh follows from the counts of segments of its figure, and for
a cylinder also from its caps.  There is a lemma for each way to build a mesh.

The estimate that decides whether a figure is built is the same number, as a word of 64
bits that stays at its greatest value, except for cylinders and for cones that show a
video.  These are counted with two caps, and each end that has none is counted for nothing
(`Figure.spare`).  `Figure.vertexEstimate_law` says what follows from it: the estimate is
exact if and only if nothing is spare, and otherwise a figure may be refused whose vertices
could all be counted (`Figure.build_fullCone`).
-/

namespace Scenery

/-! ## Meshes -/

namespace Mesh

variable {α : Type}

@[simp] theorem vertexCount_withUvs (m : Mesh α) (uvs : Array (Vec2 α)) :
    (m.withUvs uvs).vertexCount = m.vertexCount := rfl

@[simp] theorem vertexCount_withColors (m : Mesh α) (colors : Array (Color α)) :
    (m.withColors colors).vertexCount = m.vertexCount := rfl

variable [Scalar α]

@[simp] theorem vertexCount_ofVertices (positions : Array (Vec3 α)) (indices : Array Nat)
    (normals : Option (Array (Vec3 α))) :
    (ofVertices positions indices normals).vertexCount = positions.size := rfl

@[simp] theorem vertexCount_computeNormals (m : Mesh α) :
    m.computeNormals.vertexCount = m.vertexCount := rfl

end Mesh

namespace Shape

variable {α : Type}

/-! ## Figures over one grid -/

section Plane

variable [Scalar α]

/-- A rectangle has the points of its grid. -/
theorem vertexCount_ofRectangle (g : Rectangle α) :
    (ofRectangle g).mesh.vertexCount =
      (max g.partsX.toNat 1 + 1) * (max g.partsY.toNat 1 + 1) := by
  simp [ofRectangle, gridOf_length]

theorem vertexCount_ofTriangle (g : Triangle α) : (ofTriangle g).mesh.vertexCount = 3 := rfl

/-- A sampled surface has the points of its grid. -/
theorem vertexCount_sampled (surface : Surface α) (cols rows : Nat) :
    (sampled surface cols rows).vertexCount = (cols + 1) * (rows + 1) := by
  simp [sampled, gridOf_length]

/-- A patch is built from one of its surfaces, with segments in both directions. -/
theorem ofPatch?_eq_ok {g : Patch α} {s : Shape α} (h : ofPatch? g = some (.ok s)) :
    g.partsU ≠ 0 ∧ g.partsV ≠ 0 ∧
      ∃ surface, s = atOrigin (sampled surface g.partsU.toNat g.partsV.toNat) := by
  unfold ofPatch? at h
  split at h
  next => cases h
  next hu =>
    split at h
    next => cases h
    next hv =>
      obtain ⟨net, -, hnet⟩ := Option.bind_eq_some_iff.mp h
      split at hnet
      next => cases hnet
      next =>
        split at hnet
        next surface _ =>
          cases hnet
          exact ⟨hu, hv, surface, rfl⟩
        next =>
          obtain ⟨_, -, herror⟩ := Option.bind_eq_some_iff.mp hnet
          cases herror

/-- A patch that is refused has no segments in a direction, or a wrong number of control points. -/
theorem ofPatch?_eq_error {g : Patch α} {e : GeometryError} (h : ofPatch? g = some (.error e)) :
    (∃ axis, e = .noSamples axis) ∨ ∃ needed, e = netError g needed := by
  unfold ofPatch? at h
  split at h
  next =>
    cases h
    exact Or.inl ⟨_, rfl⟩
  next =>
    split at h
    next =>
      cases h
      exact Or.inl ⟨_, rfl⟩
    next =>
      obtain ⟨net, hnet, h⟩ := Option.bind_eq_some_iff.mp h
      split at h
      next e' =>
        cases h
        obtain ⟨needed, -, hneeded⟩ := Option.bind_eq_some_iff.mp hnet
        split at hneeded
        next => cases hneeded
        next =>
          cases hneeded
          exact Or.inr ⟨needed, rfl⟩
      next =>
        split at h
        next => cases h
        next =>
          obtain ⟨needed, -, herror⟩ := Option.bind_eq_some_iff.mp h
          cases herror
          exact Or.inr ⟨needed, rfl⟩

/-- A patch that is not built is not refused for the number of its vertices. -/
theorem ofPatch?_ne_tooManyVertices (g : Patch α) (tag : Tag) (n : Nat) :
    ofPatch? g ≠ some (.error (.tooManyVertices tag n)) := by
  intro h
  rcases ofPatch?_eq_error h with ⟨axis, he⟩ | ⟨needed, he⟩
  · cases he
  · cases he

/-! ## Boxes -/

/-- The sides of a box have their vertices one side after the other. -/
theorem length_sides (sides : List (Side α)) :
    (sides.flatMap fun s => gridOf s.cols s.rows s.position).length =
      (sides.map Side.vertexCount).sum := by
  simp only [List.length_flatMap, gridOf_length]
  rfl

/-- A box has two grids of points for each pair of axes. -/
theorem vertexCount_ofBox (g : Box α) :
    (ofBox g).mesh.vertexCount =
      2 * ((max g.partsX.toNat 1 + 1) * (max g.partsY.toNat 1 + 1) +
        (max g.partsZ.toNat 1 + 1) * (max g.partsY.toNat 1 + 1) +
        (max g.partsX.toNat 1 + 1) * (max g.partsZ.toNat 1 + 1)) := by
  have hsum : (ofBox g).mesh.vertexCount = ((boxSides g).map Side.vertexCount).sum := by
    simp only [ofBox, Mesh.vertexCount_withUvs, Mesh.vertexCount_ofVertices, List.size_toArray,
      length_sides]
  rw [hsum]
  simp only [boxSides, Side.vertexCount, List.map_cons, List.map_nil, List.sum_cons, List.sum_nil]
  ring

end Plane

/-! ## Figures around an axis -/

/-- Rings around a middle are `slices` vertices each, and the middle. -/
theorem length_ringsOf {β : Type} (slices rings : Nat) (middle : β) (vertex : Nat → Nat → β) :
    (ringsOf slices rings middle vertex).length = slices * rings + 1 := by
  simp [ringsOf, List.length_flatMap, List.map_const', Nat.mul_comm]

section Round

variable [Angular α]

/-- A sphere has the points of its grid, with its seam and both poles drawn out. -/
theorem vertexCount_ofSphere (g : Sphere α) :
    (ofSphere g).mesh.vertexCount = (max g.slices.toNat 3 + 1) * (max g.layers.toNat 2 + 1) := by
  simp [ofSphere, atOrigin, gridOf_length]

/-- A disc has its rings and one center for both sides. -/
theorem vertexCount_ofPolygon (g : Polygon α) :
    (ofPolygon g).mesh.vertexCount = max g.slices.toNat 3 * max g.rings.toNat 1 + 1 := by
  simp [ofPolygon, atOrigin, length_ringsOf]

/-- A cap has a center and a closed ring. -/
theorem Cap.length_positions (p : CylinderMeasures α) (cap : Cap) :
    (cap.positions p).length = p.cols + 2 := by
  simp [positions]

/-- A cylinder has the points of its mantle and those of each cap that is there. -/
theorem vertexCount_cylinderMesh (p : CylinderMeasures α) :
    (cylinderMesh p).vertexCount = (p.cols + 1) * (p.rows + 1) + p.caps.length * (p.cols + 2) := by
  simp [cylinderMesh, gridOf_length, List.length_flatMap, Cap.length_positions, List.map_const']

/-- The measures of a declared cylinder. -/
def cylinderMeasures (g : Cylinder α) : CylinderMeasures α where
  radiusTop := g.top
  radiusBottom := g.base
  height := g.height
  slices := g.slices
  layers := g.layers
  openEnded := g.openEnded
  thetaStart := Angular.toRadians g.thetaStart
  thetaLength := Angular.toRadians g.thetaLength

theorem ofCylinder_mesh (g : Cylinder α) :
    (ofCylinder g).mesh = cylinderMesh (cylinderMeasures g) :=
  rfl

/-- The cylinder of a video has no caps. -/
theorem vertexCount_ofVideo (g : Video α) :
    (ofVideo g).mesh.vertexCount =
      (max g.slices.toNat 3 + 1) * (max g.layers.toNat 1 + 1) := by
  have hcaps : (videoMeasures g).caps = [] := rfl
  have hmesh : (ofVideo g).mesh.vertexCount = (cylinderMesh (videoMeasures g)).vertexCount := rfl
  rw [hmesh, vertexCount_cylinderMesh, hcaps]
  simp [CylinderMeasures.cols, CylinderMeasures.rows, videoMeasures]

end Round

end Shape

/-! ## Ends without a cap -/

variable {α : Type}

section Spare

variable [Scalar α]

/-- The number of ends of a cylinder that have no cap: both if it is open, and each that has
no radius. -/
def Cylinder.bareEnds (g : Cylinder α) : Nat :=
  if g.openEnded then 2 else (if 0 < g.top then 0 else 1) + if 0 < g.base then 0 else 1

/-- The number of vertices that a figure is counted with and does not have. -/
def Figure.spare : Figure α → Nat
  | .cylinder g => g.bareEnds * (max g.slices.toNat 3 + 2)
  | .video g => 2 * (max g.slices.toNat 3 + 2)
  | _ => 0

end Spare

variable [Angular α]

/-- An end either has a cap or not. -/
theorem Cylinder.length_caps_add_bareEnds (g : Cylinder α) :
    (Shape.cylinderMeasures g).caps.length + g.bareEnds = 2 := by
  unfold Shape.CylinderMeasures.caps Cylinder.bareEnds
  change (if g.openEnded then [] else _ : List Shape.Cap).length + _ = 2
  cases g.openEnded with
  | true => rfl
  | false =>
      simp only [Bool.false_eq_true, if_false, List.filter_cons, List.filter_nil,
        Shape.Cap.radius, Shape.cylinderMeasures]
      by_cases htop : 0 < g.top <;> by_cases hbase : 0 < g.base <;> simp [htop, hbase]

namespace Shape

/-! ## Estimates -/

/-- The product of two counts of segments leaves room for one more in 64 bits. -/
theorem mul_lt_maxWord {a b : Nat} (ha : a < 0x100000000) (hb : b < 0x100000000) :
    a * b < maxWord := by
  have h : a * b ≤ 0xFFFFFFFF * 0xFFFFFFFF := Nat.mul_le_mul (by omega) (by omega)
  unfold maxWord
  omega

/-- The estimate of a cylinder counts two caps, whichever are there. -/
theorem cylinderEstimate_eq (slices layers : UInt32) :
    cylinderEstimate slices layers =
      saturated ((max slices.toNat 3 + 1) * (max layers.toNat 1 + 1) +
        2 * (max slices.toNat 3 + 2)) := by
  simp only [cylinderEstimate, gridEstimate, saturated]
  omega

/-- Counts that stay at their greatest value on the way to a sum stay there at its end. -/
theorem saturated_sum_mul_two (a b c : Nat) :
    saturated (saturated (saturated (saturated a + saturated b) + saturated c) * 2) =
      saturated (2 * (a + b + c)) := by
  unfold saturated
  generalize maxWord = greatest
  omega

/-- Whether an estimate is too large does not depend on where it stays. -/
theorem maxVertices_lt_saturated {n : Nat} : maxVertices < saturated n ↔ maxVertices < n := by
  unfold saturated maxVertices maxWord
  omega

/-- A surplus does not show if it is nothing or if the count is saturated without it. -/
theorem saturated_add_eq_iff {n spare : Nat} :
    saturated (n + spare) = saturated n ↔ spare = 0 ∨ maxWord ≤ n := by
  unfold saturated
  omega

end Shape

namespace Figure

open Shape

/-- A figure that is built has its mesh. -/
theorem shape?_of_build? {f : Figure α} {s : Shape α} (h : f.build? = some (.ok s)) :
    f.shape? = some (.ok s) := by
  rw [build?] at h
  split at h
  · cases h
  · exact h

/-- A figure is estimated to have its vertices, and besides those that are spare. -/
theorem vertexEstimate_eq {f : Figure α} {s : Shape α} (h : f.shape? = some (.ok s)) :
    f.vertexEstimate = saturated (s.mesh.vertexCount + f.spare) := by
  cases f with
  | rectangle g =>
      cases h
      rw [vertexCount_ofRectangle]
      rfl
  | triangle g =>
      cases h
      rw [vertexCount_ofTriangle]
      rfl
  | box g =>
      cases h
      rw [vertexCount_ofBox]
      exact saturated_sum_mul_two _ _ _
  | sphere g =>
      cases h
      rw [vertexCount_ofSphere]
      rfl
  | cylinder g =>
      cases h
      have hends := g.length_caps_add_bareEnds
      have hcols : (cylinderMeasures g).cols = max g.slices.toNat 3 := rfl
      have hrows : (cylinderMeasures g).rows = max g.layers.toNat 1 := rfl
      rw [ofCylinder_mesh, vertexCount_cylinderMesh, hcols, hrows]
      simp only [vertexEstimate, spare, cylinderEstimate_eq, Nat.add_assoc]
      rw [← Nat.add_mul, hends]
  | polygon g =>
      cases h
      rw [vertexCount_ofPolygon]
      have hlt := mul_lt_maxWord (a := max g.slices.toNat 3) (b := max g.rings.toNat 1)
        (by have := g.slices.toNat_lt; omega) (by have := g.rings.toNat_lt; omega)
      simp only [vertexEstimate, spare, saturated]
      omega
  | nurbs g =>
      obtain ⟨-, -, surface, rfl⟩ := ofPatch?_eq_ok h
      simp only [atOrigin, vertexCount_sampled]
      rfl
  | video g =>
      cases h
      rw [vertexCount_ofVideo]
      exact cylinderEstimate_eq g.slices g.layers

/-- What a figure comes to if it has a mesh.  The estimate is the number of its vertices and
those that are spare, and decides alone.  It is exact if nothing is spare, and also if there
are so many vertices that it stays at its greatest value anyhow.  Whatever the figure, being
refused for the number of vertices means that the estimate is too large, and the estimate is
what is told. -/
theorem vertexEstimate_law (f : Figure α) :
    (∀ s, f.shape? = some (.ok s) →
      f.vertexEstimate = saturated (s.mesh.vertexCount + f.spare) ∧
      (f.vertexEstimate = saturated s.mesh.vertexCount ↔
        f.spare = 0 ∨ maxWord ≤ s.mesh.vertexCount) ∧
      f.build? = some (if maxVertices < s.mesh.vertexCount + f.spare
        then .error (.tooManyVertices f.tag (saturated (s.mesh.vertexCount + f.spare)))
        else .ok s)) ∧
    ∀ tag n, f.build? = some (.error (.tooManyVertices tag n)) ↔
      maxVertices < f.vertexEstimate ∧ tag = f.tag ∧ n = f.vertexEstimate := by
  constructor
  · intro s hs
    have hestimate := vertexEstimate_eq hs
    refine ⟨hestimate, ?_, ?_⟩
    · rw [hestimate]
      exact saturated_add_eq_iff
    · unfold build?
      rw [hestimate, hs]
      simp only [maxVertices_lt_saturated]
      split <;> rfl
  · intro tag n
    unfold build?
    split
    next hlarge =>
      simp only [Option.some.injEq, Except.error.injEq, GeometryError.tooManyVertices.injEq]
      constructor
      · rintro ⟨rfl, rfl⟩
        exact ⟨hlarge, rfl, rfl⟩
      · rintro ⟨-, rfl, rfl⟩
        exact ⟨rfl, rfl⟩
    next hsmall =>
      refine iff_of_false ?_ fun h => hsmall h.1
      cases f with
      | nurbs g => exact ofPatch?_ne_tooManyVertices g tag n
      | rectangle | triangle | box | sphere | cylinder | polygon | video =>
          intro h
          cases h

/-- A cone that shows a video, with segments around and along its axis. -/
def cone (slices layers : UInt32) : Video Float32 :=
  { textureRef := "screen", radius := 1, height := 1, slices, layers, fadeStart := 1 }

/-- A cone with more vertices than can be counted is refused with a number that is not
theirs, and one with exactly as many as can be counted is refused as well. -/
theorem build_fullCone :
    ((ofVideo (cone 70000 70000)).mesh.vertexCount = 4900140001 ∧
      (video (cone 70000 70000)).build? = some (.error (.tooManyVertices .video 4900280005))) ∧
    (ofVideo (cone 65534 65536)).mesh.vertexCount = maxVertices ∧
      (video (cone 65534 65536)).build? = some (.error (.tooManyVertices .video 4295098367)) := by
  have hcount : ∀ slices layers : UInt32, (ofVideo (cone slices layers)).mesh.vertexCount =
      (max slices.toNat 3 + 1) * (max layers.toNat 1 + 1) :=
    fun slices layers => vertexCount_ofVideo (cone slices layers)
  refine ⟨⟨?_, rfl⟩, ?_, rfl⟩
  · rw [hcount]
    rfl
  · rw [hcount]
    rfl

end Figure

end Scenery
