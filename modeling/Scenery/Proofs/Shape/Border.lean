import Mathlib.Data.List.ProdSigma
import Scenery.Proofs.Shape.Edges

/-!
# Edges of grids

A cell of a grid has four corners by row and column, and its two triangles are six strokes
between them: along its four sides and both ways along a diagonal (`Shape.gridStrokes`).  All
six go in different directions, so no directed edge of a grid occurs twice
(`Shape.oriented_gridIndices`).  What is asked of the strokes is `Shape.Drawable`, so that
other cells than those of a full grid can be drawn as well.

A column is gone down by the cells on its right and up by those on its left, and a row is gone
in either direction by the cells above and below it.  So both directions of an edge are
there unless the cell on one of its sides is missing, and that is so on the border of the grid
alone (`Shape.both_ways_iff`).
-/

namespace Scenery

namespace Shape

/-! ## Edges of a grid -/

/-- A stroke between two corners of a cell, each by row and column. -/
abbrev CellStroke := (Nat × Nat) × (Nat × Nat)

/-- The number of a vertex by row and column. -/
def numbered (start cols : Nat) (p : Nat × Nat) : Nat := gridVertex start cols p.2 p.1

/-- A directed edge by the numbers of its ends. -/
def numberedEdge (start cols : Nat) (e : CellStroke) : Nat × Nat :=
  (numbered start cols e.1, numbered start cols e.2)

/-- The directed edges of a grid whose cells draw strokes of their own. -/
def gridEdges (start cols rows : Nat) (own : Nat × Nat → List CellStroke) : List (Nat × Nat) :=
  ((List.range rows ×ˢ List.range cols).flatMap fun cell => (own cell).map (drawn cell)).map
    (numberedEdge start cols)

/-- A vertex of a grid is in one row and one column. -/
theorem gridVertex_inj {start cols col row col' row' : Nat} (hcol : col ≤ cols)
    (hcol' : col' ≤ cols) :
    gridVertex start cols col row = gridVertex start cols col' row' ↔ col = col' ∧ row = row' := by
  constructor
  · intro h
    have hsum : col + (cols + 1) * row = col' + (cols + 1) * row' := by
      simp only [gridVertex] at h
      linarith
    have hrow := congrArg (· / (cols + 1)) hsum
    have hrest := congrArg (· % (cols + 1)) hsum
    simp only [Nat.add_mul_div_left _ _ (Nat.succ_pos cols), Nat.add_mul_mod_self_left,
      Nat.div_eq_of_lt (Nat.lt_succ_of_le hcol), Nat.div_eq_of_lt (Nat.lt_succ_of_le hcol'),
      Nat.mod_eq_of_lt (Nat.lt_succ_of_le hcol), Nat.mod_eq_of_lt (Nat.lt_succ_of_le hcol'),
      Nat.zero_add] at hrow hrest
    exact ⟨hrest, hrow⟩
  · rintro ⟨rfl, rfl⟩
    rfl

theorem mem_gridEdges {start cols rows : Nat} {own : Nat × Nat → List CellStroke}
    {e : Nat × Nat} : e ∈ gridEdges start cols rows own ↔ ∃ row < rows, ∃ col < cols,
      ∃ s ∈ own (row, col), e = numberedEdge start cols (drawn (row, col) s) := by
  simp only [gridEdges, List.mem_map, List.mem_flatMap]
  constructor
  · rintro ⟨-, ⟨⟨row, col⟩, hcell, s, hs, rfl⟩, rfl⟩
    obtain ⟨hrow, hcol⟩ := List.pair_mem_product.mp hcell
    exact ⟨row, List.mem_range.mp hrow, col, List.mem_range.mp hcol, s, hs, rfl⟩
  · rintro ⟨row, hrow, col, hcol, s, hs, rfl⟩
    have hcell := List.pair_mem_product.mpr ⟨List.mem_range.mpr hrow, List.mem_range.mpr hcol⟩
    exact ⟨_, ⟨(row, col), hcell, s, hs, rfl⟩, rfl⟩

/-- A loop over rows and columns gives the edges of a grid if each turn gives those of a
cell. -/
theorem edgesOf_cells {start cols rows : Nat} {own : Nat × Nat → List CellStroke}
    {turn : Nat → Nat → List Nat} (whole : ∀ row col, 3 ∣ (turn row col).length)
    (hturn : ∀ row col, edgesOf (turn row col) =
      ((own (row, col)).map (drawn (row, col))).map (numberedEdge start cols)) :
    edgesOf ((List.range rows).flatMap fun row => (List.range cols).flatMap (turn row)) =
      gridEdges start cols rows own := by
  have hrow : ∀ row, edgesOf ((List.range cols).flatMap (turn row)) =
      (List.range cols).flatMap fun col => edgesOf (turn row col) :=
    fun row => edgesOf_flatMap fun col _ => whole row col
  rw [edgesOf_flatMap fun row _ => whole_flatMap fun col _ => whole row col]
  simp only [hrow, hturn, gridEdges, SProd.sprod, List.product, List.map_flatMap,
    List.flatMap_assoc, List.flatMap_map]

/-- Strokes that every cell of a grid can draw without drawing an edge of another cell. -/
structure Drawable (strokes : List CellStroke) : Prop where
  nodup : strokes.Nodup
  distinct : Distinct strokes
  /-- A stroke has two ends. -/
  apart : ∀ s ∈ strokes, s.1 ≠ s.2
  /-- A stroke does not leave the columns of its cell. -/
  inside : ∀ s ∈ strokes, s.1.2 ≤ 1 ∧ s.2.2 ≤ 1

namespace Drawable

variable {strokes : List CellStroke} {start cols rows : Nat} {own : Nat × Nat → List CellStroke}

theorem numbered_inj {p q : Nat × Nat} (hp : p.2 ≤ cols) (hq : q.2 ≤ cols) :
    numbered start cols p = numbered start cols q ↔ p = q := by
  rw [numbered, numbered, gridVertex_inj hp hq, Prod.ext_iff, and_comm]

/-- The ends of a stroke stay within the columns of the grid. -/
theorem inside_drawn (h : Drawable strokes) {cell : Nat × Nat} (hcell : cell.2 < cols)
    {s : CellStroke} (hs : s ∈ strokes) :
    (drawn cell s).1.2 ≤ cols ∧ (drawn cell s).2.2 ≤ cols := by
  obtain ⟨hstart, hend⟩ := h.inside s hs
  simp only [drawn, Prod.snd_add]
  omega

theorem nodup_gridEdges (h : Drawable strokes) (hown : ∀ cell, (own cell).Sublist strokes) :
    (gridEdges start cols rows own).Nodup := by
  refine (nodup_drawn h.nodup h.distinct (List.nodup_range.product List.nodup_range)
    fun cell _ => hown cell).map_on ?_
  have hinside : ∀ e ∈ (List.range rows ×ˢ List.range cols).flatMap fun cell =>
      (own cell).map (drawn cell), e.1.2 ≤ cols ∧ e.2.2 ≤ cols := by
    intro e he
    obtain ⟨⟨row, col⟩, hcell, hdrawn⟩ := List.mem_flatMap.mp he
    obtain ⟨s, hs, rfl⟩ := List.mem_map.mp hdrawn
    have hcol := List.mem_range.mp (List.pair_mem_product.mp hcell).2
    exact h.inside_drawn hcol ((hown _).subset hs)
  intro e he f hf heq
  obtain ⟨hstart, hend⟩ := Prod.mk.inj heq
  exact Prod.ext ((numbered_inj (hinside e he).1 (hinside f hf).1).mp hstart)
    ((numbered_inj (hinside e he).2 (hinside f hf).2).mp hend)

theorem ne_of_mem_gridEdges (h : Drawable strokes) (hown : ∀ cell, (own cell).Sublist strokes)
    {e : Nat × Nat} (he : e ∈ gridEdges start cols rows own) : e.1 ≠ e.2 := by
  obtain ⟨row, -, col, hcol, s, hs, rfl⟩ := mem_gridEdges.mp he
  have hs := (hown _).subset hs
  have hcell : (row, col).2 < cols := hcol
  obtain ⟨hstart, hend⟩ := h.inside_drawn hcell hs
  intro heq
  exact h.apart s hs (add_left_cancel ((numbered_inj hstart hend).mp heq))

end Drawable

/-! ## Full grids -/

/-- The strokes of a cell of a grid, those of the near triangle first. -/
def gridStrokes : List CellStroke :=
  [((0, 0), (1, 0)), ((1, 0), (0, 1)), ((0, 1), (0, 0)),
    ((1, 0), (1, 1)), ((1, 1), (0, 1)), ((0, 1), (1, 0))]

instance {G : Type} [Add G] [DecidableEq G] (strokes : List (G × G)) :
    Decidable (Distinct strokes) :=
  inferInstanceAs (Decidable (∀ e ∈ strokes, ∀ f ∈ strokes, e.1 + f.2 = f.1 + e.2 → e = f))

theorem drawable_gridStrokes : Drawable gridStrokes :=
  ⟨by decide, by decide, by decide, by decide⟩

theorem edgesOf_gridIndices (start cols rows : Nat) :
    edgesOf (gridIndices start cols rows) = gridEdges start cols rows fun _ => gridStrokes :=
  edgesOf_cells (fun _ _ => by simp [cellIndices]) fun _ _ => rfl

theorem le_of_mem_gridIndices {start cols rows i : Nat} (h : i ∈ gridIndices start cols rows) :
    start ≤ i := by
  simp only [gridIndices, cellIndices, List.mem_flatMap, List.mem_cons, List.not_mem_nil,
    or_false] at h
  obtain ⟨row, -, col, -, h⟩ := h
  omega

theorem oriented_gridIndices (start cols rows : Nat) :
    Oriented start (start + (cols + 1) * (rows + 1)) (gridIndices start cols rows) := by
  have hcorners := corners_gridIndices start cols rows
  refine ⟨hcorners.whole, proper_of_edgesOf ?proper, ?once, ?within⟩
  case proper =>
    intro e he
    rw [edgesOf_gridIndices] at he
    exact drawable_gridStrokes.ne_of_mem_gridEdges (fun _ => .refl _) he
  case once =>
    rw [edgesOf_gridIndices]
    exact drawable_gridStrokes.nodup_gridEdges fun _ => .refl _
  case within => exact fun i hi => ⟨le_of_mem_gridIndices hi, hcorners.inside i hi⟩

/-! ## The border of a grid -/

/-- Two vertices are on one side of the border of a grid. -/
inductive OnBorder (start cols rows : Nat) : Nat → Nat → Prop
  | top {col col' : Nat} (h : col ≤ cols) (h' : col' ≤ cols) :
      OnBorder start cols rows (gridVertex start cols col 0) (gridVertex start cols col' 0)
  | bottom {col col' : Nat} (h : col ≤ cols) (h' : col' ≤ cols) :
      OnBorder start cols rows (gridVertex start cols col rows) (gridVertex start cols col' rows)
  | left {row row' : Nat} (h : row ≤ rows) (h' : row' ≤ rows) :
      OnBorder start cols rows (gridVertex start cols 0 row) (gridVertex start cols 0 row')
  | right {row row' : Nat} (h : row ≤ rows) (h' : row' ≤ rows) :
      OnBorder start cols rows (gridVertex start cols cols row) (gridVertex start cols cols row')

theorem onBorder_iff {start cols rows col row col' row' : Nat} (hcol : col ≤ cols)
    (hrow : row ≤ rows) (hcol' : col' ≤ cols) (hrow' : row' ≤ rows) :
    OnBorder start cols rows (gridVertex start cols col row) (gridVertex start cols col' row') ↔
      (row = 0 ∧ row' = 0) ∨ (row = rows ∧ row' = rows) ∨
        (col = 0 ∧ col' = 0) ∨ (col = cols ∧ col' = cols) := by
  constructor
  · generalize hu : gridVertex start cols col row = u
    generalize hv : gridVertex start cols col' row' = v
    intro h
    cases h with
    | top h h' =>
        obtain ⟨-, rfl⟩ := (gridVertex_inj hcol h).mp hu
        obtain ⟨-, rfl⟩ := (gridVertex_inj hcol' h').mp hv
        exact Or.inl ⟨rfl, rfl⟩
    | bottom h h' =>
        obtain ⟨-, rfl⟩ := (gridVertex_inj hcol h).mp hu
        obtain ⟨-, rfl⟩ := (gridVertex_inj hcol' h').mp hv
        exact Or.inr (Or.inl ⟨rfl, rfl⟩)
    | left h h' =>
        obtain ⟨rfl, -⟩ := (gridVertex_inj hcol (Nat.zero_le cols)).mp hu
        obtain ⟨rfl, -⟩ := (gridVertex_inj hcol' (Nat.zero_le cols)).mp hv
        exact Or.inr (Or.inr (Or.inl ⟨rfl, rfl⟩))
    | right h h' =>
        obtain ⟨heq, -⟩ := (gridVertex_inj hcol (Nat.le_refl cols)).mp hu
        obtain ⟨heq', -⟩ := (gridVertex_inj hcol' (Nat.le_refl cols)).mp hv
        exact Or.inr (Or.inr (Or.inr ⟨heq, heq'⟩))
  · rintro (⟨rfl, rfl⟩ | ⟨rfl, rfl⟩ | ⟨rfl, rfl⟩ | ⟨rfl, rfl⟩)
    · exact .top hcol hcol'
    · exact .bottom hcol hcol'
    · exact .left hrow hrow'
    · exact .right hrow hrow'

/-- Which way the directed edges of a grid go.  A column is gone down in the cells on its right
and up in those on its left.  A row is gone left in the cells below it and right in those above
it.  Each diagonal is gone both ways. -/
theorem mem_edgesOf_gridIndices {start cols rows col row col' row' : Nat} (hcol : col ≤ cols)
    (hcol' : col' ≤ cols) :
    (gridVertex start cols col row, gridVertex start cols col' row') ∈
        edgesOf (gridIndices start cols rows) ↔
      (col' = col ∧ row' = row + 1 ∧ row < rows ∧ col < cols) ∨
      (col' = col ∧ row = row' + 1 ∧ row' < rows ∧ 0 < col) ∨
      (row' = row ∧ col = col' + 1 ∧ row < rows) ∨
      (row' = row ∧ col' = col + 1 ∧ 0 < row ∧ row ≤ rows) ∨
      (col' = col + 1 ∧ row = row' + 1 ∧ row' < rows) ∨
      (col = col' + 1 ∧ row' = row + 1 ∧ row < rows) := by
  rw [edgesOf_gridIndices, mem_gridEdges]
  constructor
  · rintro ⟨r, hr, c, hc, s, hs, heq⟩
    have hcell : (r, c).2 < cols := hc
    obtain ⟨hstart, hend⟩ := drawable_gridStrokes.inside_drawn hcell hs
    obtain ⟨hu, hv⟩ := Prod.mk.inj heq
    obtain ⟨rfl, rfl⟩ := (gridVertex_inj hcol hstart).mp hu
    obtain ⟨rfl, rfl⟩ := (gridVertex_inj hcol' hend).mp hv
    simp only [gridStrokes, List.mem_cons, List.not_mem_nil, or_false] at hs
    rcases hs with rfl | rfl | rfl | rfl | rfl | rfl <;>
      simp only [drawn, Prod.mk_add_mk, true_and]
    -- down, up and right, left, right, up, down and left
    · exact Or.inl (by omega)
    · exact Or.inr (Or.inr (Or.inr (Or.inr (Or.inl (by omega)))))
    · exact Or.inr (Or.inr (Or.inl (by omega)))
    · exact Or.inr (Or.inr (Or.inr (Or.inl (by omega))))
    · exact Or.inr (Or.inl (by omega))
    · exact Or.inr (Or.inr (Or.inr (Or.inr (Or.inr (by omega)))))
  · rintro (⟨rfl, rfl, hr, hc⟩ | ⟨rfl, rfl, hr, hc⟩ | ⟨rfl, rfl, hr⟩ | ⟨rfl, rfl, h, hr⟩ |
      ⟨rfl, rfl, hr⟩ | ⟨rfl, rfl, hr⟩)
    · exact ⟨row, hr, col', hc, ((0, 0), (1, 0)), by decide, rfl⟩
    · obtain ⟨c, rfl⟩ := Nat.exists_eq_succ_of_ne_zero hc.ne'
      exact ⟨row', hr, c, hcol, ((1, 1), (0, 1)), by decide, rfl⟩
    · exact ⟨row', hr, col', hcol, ((0, 1), (0, 0)), by decide, rfl⟩
    · obtain ⟨r, rfl⟩ := Nat.exists_eq_succ_of_ne_zero h.ne'
      exact ⟨r, hr, col, hcol', ((1, 0), (1, 1)), by decide, rfl⟩
    · exact ⟨row', hr, col, hcol', ((1, 0), (0, 1)), by decide, rfl⟩
    · exact ⟨row, hr, col', hcol, ((0, 1), (1, 0)), by decide, rfl⟩

/-- The vertices that a directed edge of a grid joins. -/
theorem exists_vertices {start cols rows : Nat} {e : Nat × Nat}
    (h : e ∈ edgesOf (gridIndices start cols rows)) : ∃ col row col' row',
      e = (gridVertex start cols col row, gridVertex start cols col' row') ∧
        col ≤ cols ∧ row ≤ rows ∧ col' ≤ cols ∧ row' ≤ rows := by
  rw [edgesOf_gridIndices, mem_gridEdges] at h
  obtain ⟨r, hr, c, hc, s, hs, rfl⟩ := h
  refine ⟨_, _, _, _, rfl, ?_⟩
  simp only [gridStrokes, List.mem_cons, List.not_mem_nil, or_false] at hs
  rcases hs with rfl | rfl | rfl | rfl | rfl | rfl
  all_goals
    simp only [drawn, Prod.mk_add_mk]
    omega

theorem OnBorder.symm {start cols rows u v : Nat} (h : OnBorder start cols rows u v) :
    OnBorder start cols rows v u := by
  cases h with
  | top h h' => exact .top h' h
  | bottom h h' => exact .bottom h' h
  | left h h' => exact .left h' h
  | right h h' => exact .right h' h

/-- A directed edge of a grid is also gone the other way exactly if it is not on the border. -/
theorem back_iff {start cols rows u v : Nat} (h : (u, v) ∈ edgesOf (gridIndices start cols rows)) :
    (v, u) ∈ edgesOf (gridIndices start cols rows) ↔ ¬ OnBorder start cols rows u v := by
  obtain ⟨col, row, col', row', he, hcol, hrow, hcol', hrow'⟩ := exists_vertices h
  obtain ⟨rfl, rfl⟩ := Prod.mk.inj he
  rw [mem_edgesOf_gridIndices hcol hcol'] at h
  rw [mem_edgesOf_gridIndices hcol' hcol, onBorder_iff hcol hrow hcol' hrow']
  rcases h with ⟨rfl, rfl, hr, hc⟩ | ⟨rfl, rfl, hr, hc⟩ | ⟨rfl, rfl, hr⟩ | ⟨rfl, rfl, hr, hle⟩ |
    ⟨rfl, rfl, hr⟩ | ⟨rfl, rfl, hr⟩
  -- what does not point back is dropped first, since there are many cases otherwise
  all_goals
    simp only [Nat.left_eq_add, Nat.add_eq_left, one_ne_zero, true_and, false_and, and_false,
      or_false, false_or, or_self, not_or, not_and]
    omega

/-- An edge of a grid is used in both directions exactly if it is not on the border. -/
theorem both_ways_iff {start cols rows u v : Nat}
    (h : (u, v) ∈ edgesOf (gridIndices start cols rows) ∨
      (v, u) ∈ edgesOf (gridIndices start cols rows)) :
    ((u, v) ∈ edgesOf (gridIndices start cols rows) ∧
      (v, u) ∈ edgesOf (gridIndices start cols rows)) ↔ ¬ OnBorder start cols rows u v := by
  rcases h with h | h
  · rw [and_iff_right h]
    exact back_iff h
  · rw [and_iff_left h, back_iff h]
    exact not_congr ⟨OnBorder.symm, OnBorder.symm⟩

end Shape

end Scenery
