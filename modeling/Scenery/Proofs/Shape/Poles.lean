import Scenery.Proofs.Scalar.Real
import Scenery.Proofs.Shape.Oriented

/-!
# What a sphere leaves out

The vertices of a row on a pole fall together, and so a triangle with an edge on such a row has
no area.  These triangles are meant to be left out.  Over real numbers one can say of a
row that it is on a pole (`Shape.OnPole`), and that its vertices fall together there and, but
for spheres that are points or go whole turns from column to column, nowhere else
(`Shape.row_together_iff`).

Whether a row is on a pole is not asked of the row, however.  The first row counts as on the
pole if theta does not start below the upper one, and the last row if theta does not end above
the lower one.  That is the same thing only for sections from pole to pole at most.
A section that starts above the upper pole, or goes on beyond the lower one, lacks triangles
that have an area (`Shape.leftOut_coarseSphere`).  `Shape.poles_law` says of every sphere which
triangles it has, and when only those on a pole are left out.
-/

namespace Scenery

namespace Shape

/-! ## Triangles of a sphere -/

section Round

variable {α : Type} [Angular α]

/-- The triangles of a sphere are those of its cells that are not skipped. -/
theorem mem_facesOf_sphereIndices {angles : SphereAngles α} {cols rows : Nat} {f : Face} :
    f ∈ facesOf (sphereIndices angles cols rows) ↔ ∃ row < rows, ∃ col < cols,
      ((kept angles rows row).1 = true ∧ f = upperFace cols col row) ∨
        ((kept angles rows row).2 = true ∧ f = lowerFace cols col row) := by
  have hcell : ∀ row col : Nat, 3 ∣ (sphereCell cols row col (kept angles rows row).1
      (kept angles rows row).2).length := fun row col => whole_sphereCell ..
  have hfaces : facesOf (sphereIndices angles cols rows) = (List.range rows).flatMap fun row =>
      (List.range cols).flatMap fun col => facesOf (sphereCell cols row col
        (kept angles rows row).1 (kept angles rows row).2) := by
    refine (facesOf_flatMap fun row _ => whole_flatMap fun col _ => hcell row col).trans ?_
    exact List.flatMap_congr fun row _ => facesOf_flatMap fun col _ => hcell row col
  simp only [hfaces, facesOf_sphereCell, List.mem_flatMap, List.mem_range, List.mem_append,
    List.mem_ite_nil_right, List.mem_singleton]

/-- A triangle on the row above tells its cell. -/
theorem upperFace_inj {cols col row col' row' : Nat} (hcol : col < cols) (hcol' : col' < cols)
    (h : upperFace cols col row = upperFace cols col' row') : col = col' ∧ row = row' := by
  have hb := congrArg Face.b h
  exact (gridVertex_inj hcol.le hcol'.le).mp hb

/-- A triangle on the row below tells its cell. -/
theorem lowerFace_inj {cols col row col' row' : Nat} (hcol : col < cols) (hcol' : col' < cols)
    (h : lowerFace cols col row = lowerFace cols col' row') : col = col' ∧ row = row' := by
  have ha := congrArg Face.a h
  exact (gridVertex_inj hcol.le hcol'.le).mp ha

/-- No triangle is on the row above in one cell and on the row below in another. -/
theorem upperFace_ne_lowerFace {cols col row col' row' : Nat} (hcol : col < cols)
    (hcol' : col' < cols) : upperFace cols col row ≠ lowerFace cols col' row' := by
  intro h
  have ha := (gridVertex_inj hcol hcol'.le).mp (congrArg Face.a h)
  have hb := (gridVertex_inj hcol.le hcol'.le).mp (congrArg Face.b h)
  omega

variable {angles : SphereAngles α} {cols rows col row : Nat}

/-- The upper triangle of a cell is skipped on the first row only, by where theta starts. -/
theorem upperFace_mem_iff (hcol : col < cols) (hrow : row < rows) :
    upperFace cols col row ∈ facesOf (sphereIndices angles cols rows) ↔
      (row = 0 → 0 < angles.thetaStart) := by
  have hkept : (kept angles rows row).1 = true ↔ (row = 0 → 0 < angles.thetaStart) := by
    rw [kept, Bool.or_eq_true, bne_iff_ne, decide_eq_true_iff, ← imp_iff_not_or]
  rw [mem_facesOf_sphereIndices, ← hkept]
  constructor
  · rintro ⟨row', -, col', hcol', ⟨h, heq⟩ | ⟨-, heq⟩⟩
    · obtain ⟨-, rfl⟩ := upperFace_inj hcol hcol' heq
      exact h
    · exact absurd heq (upperFace_ne_lowerFace hcol hcol')
  · exact fun h => ⟨row, hrow, col, hcol, Or.inl ⟨h, rfl⟩⟩

/-- The lower triangle of a cell is skipped on the last row only, by where theta ends. -/
theorem lowerFace_mem_iff (hcol : col < cols) (hrow : row < rows) :
    lowerFace cols col row ∈ facesOf (sphereIndices angles cols rows) ↔
      (row + 1 = rows → angles.thetaEnd < Angular.halfTurn) := by
  have hkept : (kept angles rows row).2 = true ↔
      (row + 1 = rows → angles.thetaEnd < Angular.halfTurn) := by
    rw [kept, Bool.or_eq_true, bne_iff_ne, decide_eq_true_iff, ← imp_iff_not_or]
  rw [mem_facesOf_sphereIndices, ← hkept]
  constructor
  · rintro ⟨row', -, col', hcol', ⟨-, heq⟩ | ⟨h, heq⟩⟩
    · exact absurd heq.symm (upperFace_ne_lowerFace hcol' hcol)
    · obtain ⟨-, rfl⟩ := lowerFace_inj hcol hcol' heq
      exact h
  · exact fun h => ⟨row, hrow, col, hcol, Or.inr ⟨h, rfl⟩⟩

end Round

/-! ## Rows of a sphere -/

/-- The segments around the second axis. -/
def sphereCols {α : Type} (g : Sphere α) : Nat := max g.slices.toNat 3

/-- The segments from pole to pole. -/
def sphereRows {α : Type} (g : Sphere α) : Nat := max g.layers.toNat 2

/-- An angle from the upper pole down, in degrees, ends on a pole: it is a number of half turns. -/
inductive OnPole : ℝ → Prop where
  | turns (k : ℤ) : OnPole (k * 180)

/-- The poles are at the multiples of half a turn. -/
theorem onPole_iff {degrees : ℝ} : OnPole degrees ↔ ∃ k : ℤ, degrees = k * 180 := by
  constructor
  · rintro ⟨k⟩
    exact ⟨k, rfl⟩
  · rintro ⟨k, rfl⟩
    exact .turns k

variable (g : Sphere ℝ)

/-- How far down from the upper pole a row is, in degrees. -/
noncomputable def rowDegrees (row : Nat) : ℝ :=
  g.thetaStart + fraction row (sphereRows g) * g.thetaLength

/-- How far around the second axis a column is, in degrees. -/
noncomputable def columnDegrees (col : Nat) : ℝ :=
  g.phiStart + fraction col (sphereCols g) * g.phiLength

/-- Where a vertex of a sphere is. -/
noncomputable def sphereVertex (col row : Nat) : Vec3 ℝ :=
  spherePosition g.radius (sphereAngles g) (sphereCols g) (sphereRows g) col row

/-- A vertex by the angles of its column and its row, in degrees. -/
theorem sphereVertex_eq (col row : Nat) :
    sphereVertex g col row =
      ⟨-g.radius * Angular.cos (Angular.toRadians (columnDegrees g col)) *
          Angular.sin (Angular.toRadians (rowDegrees g row)),
        g.radius * Angular.cos (Angular.toRadians (rowDegrees g row)),
        g.radius * Angular.sin (Angular.toRadians (columnDegrees g col)) *
          Angular.sin (Angular.toRadians (rowDegrees g row))⟩ := by
  have hscale : ∀ a t d : ℝ, Angular.toRadians a + t * Angular.toRadians d =
      Angular.toRadians (a + t * d) := by
    intro a t d
    simp only [RealAngle.toRadians_eq]
    ring
  simp only [sphereVertex, spherePosition, sphereAngles, hscale]
  rfl

theorem fraction_zero (count : Nat) : (fraction 0 count : ℝ) = 0 := by
  change ((0 : Nat) : ℝ) / (count : ℝ) = 0
  rw [Nat.cast_zero, zero_div]

theorem fraction_self {count : Nat} (h : 0 < count) : (fraction count count : ℝ) = 1 :=
  div_self (Nat.cast_ne_zero.mpr h.ne')

theorem rowDegrees_first : rowDegrees g 0 = g.thetaStart := by
  rw [rowDegrees, fraction_zero, zero_mul, add_zero]

theorem rowDegrees_last : rowDegrees g (sphereRows g) = g.thetaStart + g.thetaLength := by
  rw [rowDegrees, fraction_self (by rw [sphereRows]; omega), one_mul]

theorem columnDegrees_sub (col : Nat) :
    columnDegrees g col - columnDegrees g 0 = col / sphereCols g * g.phiLength := by
  have hfraction : (fraction col (sphereCols g) : ℝ) = col / sphereCols g := rfl
  rw [columnDegrees, columnDegrees, fraction_zero, hfraction]
  ring

/-- The vertices of a row fall together exactly if the sphere is a point, the row is on a pole, or
neighbours are whole turns apart. -/
theorem row_together_iff (row : Nat) :
    (∀ col ≤ sphereCols g, sphereVertex g col row = sphereVertex g 0 row) ↔
      g.radius = 0 ∨ OnPole (rowDegrees g row) ∨
        ∃ k : ℤ, g.phiLength = k * 360 * sphereCols g := by
  have hcols : 3 ≤ sphereCols g := Nat.le_max_right ..
  have hne : (sphereCols g : ℝ) ≠ 0 := Nat.cast_ne_zero.mpr (by omega)
  constructor
  · intro h
    by_cases hradius : g.radius = 0
    · exact Or.inl hradius
    by_cases hpole : OnPole (rowDegrees g row)
    · exact Or.inr (Or.inl hpole)
    have hsin : Angular.sin (Angular.toRadians (rowDegrees g row)) ≠ 0 :=
      fun hzero => hpole (onPole_iff.mpr (RealAngle.sin_eq_zero_iff.mp hzero))
    have hone := h 1 (by omega)
    rw [sphereVertex_eq, sphereVertex_eq, Vec3.mk.injEq] at hone
    obtain ⟨hx, -, hz⟩ := hone
    have hcos := mul_left_cancel₀ (neg_ne_zero.mpr hradius) (mul_right_cancel₀ hsin hx)
    have hsine := mul_left_cancel₀ hradius (mul_right_cancel₀ hsin hz)
    obtain ⟨k, hk⟩ := RealAngle.direction_eq_iff.mp ⟨hcos, hsine⟩
    rw [columnDegrees_sub, Nat.cast_one] at hk
    refine Or.inr (Or.inr ⟨k, ?_⟩)
    field_simp at hk
    linarith
  · intro h col _
    rw [sphereVertex_eq, sphereVertex_eq]
    rcases h with hradius | hpole | ⟨k, hk⟩
    · simp only [hradius, neg_zero, zero_mul]
    · simp only [RealAngle.sin_eq_zero_iff.mpr (onPole_iff.mp hpole), mul_zero]
    · have hturns : ∃ n : ℤ, columnDegrees g col - columnDegrees g 0 = n * 360 := by
        refine ⟨k * col, ?_⟩
        rw [columnDegrees_sub, hk]
        push_cast
        field_simp
      obtain ⟨hcos, hsin⟩ := RealAngle.direction_eq_iff.mpr hturns
      rw [hcos, hsin]

/-! ## What is left out -/

/-- Only the triangles with an edge on a pole are left out of a sphere. -/
structure OnlyPolesLeftOut : Prop where
  /-- The triangles on the first row are left out only if it is on a pole. -/
  upper : ∀ col < sphereCols g,
    upperFace (sphereCols g) col 0 ∉ (ofSphere g).mesh.faces → OnPole g.thetaStart
  /-- The triangles on the last row are left out only if it is on a pole. -/
  lower : ∀ row col, row + 1 = sphereRows g → col < sphereCols g →
    lowerFace (sphereCols g) col row ∉ (ofSphere g).mesh.faces →
      OnPole (g.thetaStart + g.thetaLength)
  /-- All others are there. -/
  others : ∀ row < sphereRows g, ∀ col < sphereCols g,
    (row ≠ 0 → upperFace (sphereCols g) col row ∈ (ofSphere g).mesh.faces) ∧
      (row + 1 ≠ sphereRows g → lowerFace (sphereCols g) col row ∈ (ofSphere g).mesh.faces)

variable {g}

/-- On a sphere the upper triangles of the first row are there if theta starts above zero. -/
theorem upperFace_mem_sphere {row col : Nat} (hrow : row < sphereRows g)
    (hcol : col < sphereCols g) :
    upperFace (sphereCols g) col row ∈ (ofSphere g).mesh.faces ↔
      (row = 0 → 0 < g.thetaStart) := by
  have hindices : (ofSphere g).mesh.faces =
      facesOf (sphereIndices (sphereAngles g) (sphereCols g) (sphereRows g)) := rfl
  have hstart : 0 < (sphereAngles g).thetaStart ↔ 0 < g.thetaStart := RealAngle.toRadians_pos
  rw [hindices, upperFace_mem_iff hcol hrow, hstart]

/-- On a sphere the lower triangles of the last row are there if theta ends below half a turn. -/
theorem lowerFace_mem_sphere {row col : Nat} (hrow : row < sphereRows g)
    (hcol : col < sphereCols g) :
    lowerFace (sphereCols g) col row ∈ (ofSphere g).mesh.faces ↔
      (row + 1 = sphereRows g → g.thetaStart + g.thetaLength < 180) := by
  have hindices : (ofSphere g).mesh.faces =
      facesOf (sphereIndices (sphereAngles g) (sphereCols g) (sphereRows g)) := rfl
  have hend : (sphereAngles g).thetaEnd < Angular.halfTurn ↔
      g.thetaStart + g.thetaLength < 180 := by
    have hmin : (sphereAngles g).thetaEnd =
        min (Angular.toRadians (g.thetaStart + g.thetaLength)) Angular.halfTurn := by
      rw [← RealAngle.toRadians_add]
      rfl
    rw [hmin, min_lt_iff, RealAngle.toRadians_lt_halfTurn, or_iff_left (lt_irrefl _)]
  rw [hindices, lowerFace_mem_iff hcol hrow, hend]

/-- Only triangles on a pole are left out exactly if each end that is clipped is on a pole. -/
theorem onlyPolesLeftOut_iff :
    OnlyPolesLeftOut g ↔ (g.thetaStart ≤ 0 → OnPole g.thetaStart) ∧
      (180 ≤ g.thetaStart + g.thetaLength → OnPole (g.thetaStart + g.thetaLength)) := by
  have hrows : 2 ≤ sphereRows g := Nat.le_max_right ..
  have hcols : 3 ≤ sphereCols g := Nat.le_max_right ..
  constructor
  · intro h
    constructor
    · intro hstart
      refine h.upper 0 (by omega) fun hmem => ?_
      exact absurd ((upperFace_mem_sphere (by omega) (by omega)).mp hmem rfl) hstart.not_gt
    · intro hend
      have hlast : sphereRows g - 1 + 1 = sphereRows g := by omega
      refine h.lower (sphereRows g - 1) 0 hlast (by omega) fun hmem => ?_
      exact absurd ((lowerFace_mem_sphere (by omega) (by omega)).mp hmem hlast) hend.not_gt
  · rintro ⟨hstart, hend⟩
    refine ⟨?_, ?_, ?_⟩
    · intro col hcol hout
      refine hstart (not_lt.mp fun hpos => hout ?_)
      exact (upperFace_mem_sphere (by omega) hcol).mpr fun _ => hpos
    · intro row col hrow hcol hout
      refine hend (not_lt.mp fun hlt => hout ?_)
      exact (lowerFace_mem_sphere (by omega) hcol).mpr fun _ => hlt
    · intro row hrow col hcol
      exact ⟨fun hne => (upperFace_mem_sphere hrow hcol).mpr fun h => absurd h hne,
        fun hne => (lowerFace_mem_sphere hrow hcol).mpr fun h => absurd h hne⟩

/-- What a sphere is made of, and what is left out of it. -/
structure Poles (g : Sphere ℝ) : Prop where
  /-- Its triangles are those of its cells. -/
  cells : ∀ f ∈ (ofSphere g).mesh.faces, ∃ row < sphereRows g, ∃ col < sphereCols g,
    f = upperFace (sphereCols g) col row ∨ f = lowerFace (sphereCols g) col row
  /-- The triangle of a cell on the row above is there, on the first row only if theta starts below
  the upper pole. -/
  upper : ∀ row < sphereRows g, ∀ col < sphereCols g,
    upperFace (sphereCols g) col row ∈ (ofSphere g).mesh.faces ↔ (row = 0 → 0 < g.thetaStart)
  /-- The triangle of a cell on the row below is there, on the last row only if theta ends above
  the lower pole. -/
  lower : ∀ row < sphereRows g, ∀ col < sphereCols g,
    lowerFace (sphereCols g) col row ∈ (ofSphere g).mesh.faces ↔
      (row + 1 = sphereRows g → g.thetaStart + g.thetaLength < 180)
  vertices :
    GridAt (ofSphere g).mesh.positions.toList 0 (sphereCols g) (sphereRows g) (sphereVertex g)
  first : rowDegrees g 0 = g.thetaStart
  last : rowDegrees g (sphereRows g) = g.thetaStart + g.thetaLength
  /-- The vertices of a row fall together on a pole, and elsewhere only if the sphere is a point or
  neighbours are whole turns apart. -/
  together : ∀ row, (∀ col ≤ sphereCols g, sphereVertex g col row = sphereVertex g 0 row) ↔
    g.radius = 0 ∨ OnPole (rowDegrees g row) ∨ ∃ k : ℤ, g.phiLength = k * 360 * sphereCols g
  /-- Only triangles on a pole are left out exactly if theta starts on a pole or below the upper
  one, and ends on a pole or above the lower one. -/
  onlyPoles : OnlyPolesLeftOut g ↔ (g.thetaStart ≤ 0 → OnPole g.thetaStart) ∧
    (180 ≤ g.thetaStart + g.thetaLength → OnPole (g.thetaStart + g.thetaLength))

/-- Every sphere over the reals has the triangles of its cells but for those at its two ends, where
the skipping looks at the sign of the angle and not at whether it is on a pole. -/
theorem poles_law (g : Sphere ℝ) : Poles g where
  cells f hf := by
    obtain ⟨row, hrow, col, hcol, h⟩ := mem_facesOf_sphereIndices.mp hf
    exact ⟨row, hrow, col, hcol, h.imp And.right And.right⟩
  upper _ hrow _ hcol := upperFace_mem_sphere hrow hcol
  lower _ hrow _ hcol := lowerFace_mem_sphere hrow hcol
  vertices := by
    have hgrid := gridAt_gridOf [] [] (sphereCols g) (sphereRows g) (sphereVertex g)
    rw [List.nil_append, List.append_nil] at hgrid
    exact hgrid
  first := rowDegrees_first g
  last := rowDegrees_last g
  together := row_together_iff g
  onlyPoles := onlyPolesLeftOut_iff

/-- A sphere of four by two cells. -/
def coarseSphere (thetaStart thetaLength phiLength : ℝ) : Sphere ℝ where
  radius := 1
  slices := 4
  layers := 2
  thetaStart
  thetaLength
  phiStart := 0
  phiLength

/-- The section from the equator over the upper pole to the equator lacks a triangle that has three
corners far apart. -/
theorem leftOut_coarseSphere :
    upperFace 4 0 0 = ⟨1, 0, 6⟩ ∧
      upperFace 4 0 0 ∉ (ofSphere (coarseSphere (-90) 180 360)).mesh.faces ∧
      sphereVertex (coarseSphere (-90) 180 360) 1 0 = ⟨0, 0, -1⟩ ∧
      sphereVertex (coarseSphere (-90) 180 360) 0 0 = ⟨1, 0, 0⟩ ∧
      sphereVertex (coarseSphere (-90) 180 360) 1 1 = ⟨0, 1, 0⟩ ∧
      ¬ OnlyPolesLeftOut (coarseSphere (-90) 180 360) := by
  have hcols : sphereCols (coarseSphere (-90) 180 360) = 4 := rfl
  have hrows : sphereRows (coarseSphere (-90) 180 360) = 2 := rfl
  have hfirst : rowDegrees (coarseSphere (-90) 180 360) 0 = -90 := rowDegrees_first _
  have hsecond : rowDegrees (coarseSphere (-90) 180 360) 1 = 0 := by
    change -90 + ((1 : Nat) : ℝ) / ((2 : Nat) : ℝ) * 180 = 0
    norm_num
  have hleft : columnDegrees (coarseSphere (-90) 180 360) 0 = 0 := by
    change 0 + ((0 : Nat) : ℝ) / ((4 : Nat) : ℝ) * 360 = 0
    norm_num
  have hright : columnDegrees (coarseSphere (-90) 180 360) 1 = 90 := by
    change 0 + ((1 : Nat) : ℝ) / ((4 : Nat) : ℝ) * 360 = 90
    norm_num
  have hradius : (coarseSphere (-90) 180 360).radius = 1 := rfl
  obtain ⟨hcos, hsin⟩ := RealAngle.direction_zero
  obtain ⟨hcos', hsin'⟩ := RealAngle.direction_quarter
  obtain ⟨hcosneg, hsinneg⟩ := RealAngle.direction_neg 90
  refine ⟨rfl, ?out, ?right, ?left, ?pole, ?notOnly⟩
  case out =>
    rw [← hcols, upperFace_mem_sphere (by rw [hrows]; decide) (by rw [hcols]; decide)]
    intro h
    have hpos : (0 : ℝ) < -90 := h rfl
    norm_num at hpos
  case right =>
    rw [sphereVertex_eq, hright, hfirst, hradius, hcosneg, hsinneg, hcos', hsin']
    norm_num
  case left =>
    rw [sphereVertex_eq, hleft, hfirst, hradius, hcosneg, hsinneg, hcos', hsin', hcos, hsin]
    norm_num
  case pole =>
    rw [sphereVertex_eq, hright, hsecond, hradius, hcos', hsin', hcos, hsin]
    norm_num
  case notOnly =>
    rw [onlyPolesLeftOut_iff]
    rintro ⟨hstart, -⟩
    have hpole : OnPole (-90) := hstart (by norm_num [coarseSphere])
    obtain ⟨k, hk⟩ := onPole_iff.mp hpole
    have hhalf : (2 * k : ℝ) = -1 := by linarith
    have hint : 2 * k = -1 := by exact_mod_cast hhalf
    omega

end Shape

end Scenery
