import Scenery.Proofs.Shape.WellFormed

/-!
# Triangles of grids

A mesh lists its vertices grid by grid and row by row, and its indices name them by their
number.  To say something of a triangle of a mesh, one has to know which cell of which grid
it comes from and where the corners of the cell stand in the list of vertices.

*Triangles.*  The indices of whole triangles can be cut anywhere between two of them
(`facesOf_append`).  So the triangles of a grid are those of its cells, two for each
(`Shape.mem_facesOf_gridIndices`).

*Vertices.*  `Shape.GridAt` says that the vertices of a grid stand in a list from a number
on.  Each triangle of several sides put one after another is one of a side whose vertices
stand where the indices look for them (`Shape.exists_side_of_mem_facesOf`).
-/

namespace Scenery

/-! ## Triangles of indices -/

theorem facesOf_append {indices : List Nat} (whole : 3 ∣ indices.length) (more : List Nat) :
    facesOf (indices ++ more) = facesOf indices ++ facesOf more := by
  induction indices using facesOf.induct with
  | case1 a b c rest ih =>
      have hrest : 3 ∣ rest.length := by
        simp only [List.length_cons] at whole
        omega
      simp only [List.cons_append, facesOf, ih hrest]
  | case2 indices hshort =>
      match indices, hshort, whole with
      | [], _, _ => rfl
      | [_], _, whole => simp at whole
      | [_, _], _, whole => simp at whole
      | a :: b :: c :: rest, hshort, _ => exact absurd rfl (hshort a b c rest)

theorem facesOf_flatMap {β : Type} {xs : List β} {turn : β → List Nat}
    (whole : ∀ x ∈ xs, 3 ∣ (turn x).length) :
    facesOf (xs.flatMap turn) = xs.flatMap fun x => facesOf (turn x) := by
  induction xs with
  | nil => rfl
  | cons x rest ih =>
      obtain ⟨hx, hrest⟩ := List.forall_mem_cons.mp whole
      rw [List.flatMap_cons, List.flatMap_cons, facesOf_append hx, ih hrest]

namespace Shape

/-! ## Triangles of cells -/

/-- The number of the vertex of a row and a column. -/
def gridVertex (start cols col row : Nat) : Nat := start + row * (cols + 1) + col

/-- The triangle of a cell on its first row and first column. -/
def nearFace (start cols col row : Nat) : Face :=
  ⟨gridVertex start cols col row, gridVertex start cols col (row + 1),
    gridVertex start cols (col + 1) row⟩

/-- The triangle of a cell on its last row and last column. -/
def farFace (start cols col row : Nat) : Face :=
  ⟨gridVertex start cols col (row + 1), gridVertex start cols (col + 1) (row + 1),
    gridVertex start cols (col + 1) row⟩

/-- The triangles of a grid are two for each cell, cell by cell. -/
theorem facesOf_gridIndices (start cols rows : Nat) :
    facesOf (gridIndices start cols rows) = (List.range rows).flatMap fun row =>
      (List.range cols).flatMap fun col =>
        [nearFace start cols col row, farFace start cols col row] := by
  have hcell : ∀ row ∈ List.range rows, ∀ col ∈ List.range cols,
      Corners (start + (cols + 1) * (rows + 1)) (cellIndices start cols row col) :=
    fun row hrow col hcol => corners_cellIndices (List.mem_range.mp hcol) (List.mem_range.mp hrow)
  have hrow : ∀ row ∈ List.range rows,
      facesOf ((List.range cols).flatMap fun col => cellIndices start cols row col) =
        (List.range cols).flatMap fun col => facesOf (cellIndices start cols row col) :=
    fun row hrow => facesOf_flatMap fun col hcol => (hcell row hrow col hcol).whole
  rw [gridIndices, facesOf_flatMap fun row hrow => (Corners.flatMap (hcell row hrow)).whole,
    List.flatMap_congr hrow]
  rfl

theorem mem_facesOf_gridIndices {start cols rows : Nat} {f : Face} :
    f ∈ facesOf (gridIndices start cols rows) ↔ ∃ row < rows, ∃ col < cols,
      f = nearFace start cols col row ∨ f = farFace start cols col row := by
  simp only [facesOf_gridIndices, List.mem_flatMap, List.mem_range, List.mem_cons,
    List.not_mem_nil, or_false]

/-! ## Vertices of grids -/

variable {β : Type}

/-- Rows of equal length that are put one after another stand at multiples of it. -/
theorem getElem?_flatMap_range {row : Nat → List β} {length : Nat}
    (hlength : ∀ i, (row i).length = length) {n i j : Nat} (hi : i < n) (hj : j < length) :
    ((List.range n).flatMap row)[i * length + j]? = (row i)[j]? := by
  induction n with
  | zero => omega
  | succ n ih =>
      have hbefore : ((List.range n).flatMap row).length = n * length := by
        simp [List.length_flatMap, hlength, List.map_const']
      rw [List.range_succ, List.flatMap_append]
      rcases Nat.lt_succ_iff_lt_or_eq.mp hi with hlt | rfl
      · have hle : (i + 1) * length ≤ n * length := Nat.mul_le_mul_right length hlt
        rw [Nat.succ_mul] at hle
        rw [List.getElem?_append_left (by omega), ih hlt]
      · rw [List.getElem?_append_right (by omega), hbefore, Nat.add_sub_cancel_left]
        simp

/-- The vertices of a grid stand in a list, the first one at a number. -/
def GridAt (items : List β) (start cols rows : Nat) (vertex : Nat → Nat → β) : Prop :=
  ∀ col ≤ cols, ∀ row ≤ rows, items[gridVertex start cols col row]? = some (vertex col row)

theorem gridAt_gridOf (before after : List β) (cols rows : Nat) (vertex : Nat → Nat → β) :
    GridAt (before ++ (gridOf cols rows vertex ++ after)) before.length cols rows vertex := by
  intro col hcol row hrow
  have hlength : ∀ r, ((List.range (cols + 1)).map fun c => vertex c r).length = cols + 1 := by
    simp
  have hvertex : (gridOf cols rows vertex)[row * (cols + 1) + col]? = some (vertex col row) := by
    rw [gridOf, getElem?_flatMap_range hlength (by omega) (by omega)]
    have hlt : col < cols + 1 := by omega
    simp [hlt]
  obtain ⟨hlt, -⟩ := List.getElem?_eq_some_iff.mp hvertex
  rw [gridVertex, Nat.add_assoc, List.getElem?_append_right (Nat.le_add_right ..),
    Nat.add_sub_cancel_left, List.getElem?_append_left hlt, hvertex]

/-! ## Triangles of several sides -/

variable {α : Type}

/-- A triangle of several sides is one of a single side.  What is listed for the vertices of
all sides stands, for that side, where the corners of the triangle are looked for. -/
theorem exists_side_of_mem_facesOf {sides : List (Side α)} {start : Nat} {f : Face}
    (h : f ∈ facesOf (sideIndices start sides)) :
    ∃ s ∈ sides, ∃ own, f ∈ facesOf (gridIndices own s.cols s.rows) ∧
      ∀ {β : Type} (vertex : Side α → Nat → Nat → β) (before : List β), before.length = start →
        GridAt (before ++ sides.flatMap fun s => gridOf s.cols s.rows (vertex s)) own s.cols s.rows
          (vertex s) := by
  induction sides generalizing start with
  | nil => cases h
  | cons s rest ih =>
      rw [sideIndices, facesOf_append (corners_gridIndices ..).whole, List.mem_append] at h
      rcases h with hfirst | hrest
      · refine ⟨s, List.mem_cons_self .., start, hfirst, ?_⟩
        rintro β vertex before rfl
        exact gridAt_gridOf before _ s.cols s.rows (vertex s)
      · obtain ⟨t, ht, own, hf, hat⟩ := ih hrest
        refine ⟨t, List.mem_cons_of_mem s ht, own, hf, ?_⟩
        intro β vertex before hbefore
        rw [List.flatMap_cons, ← List.append_assoc]
        apply hat
        rw [List.length_append, gridOf_length, hbefore, Side.vertexCount]

end Shape

end Scenery
