import Mathlib.Algebra.Group.Prod
import Mathlib.Data.List.Nodup
import Scenery.Proofs.Shape.Faces

/-!
# Directed edges of triangles

A triangle is gone around from its first corner to the second, to the third and back to the
first, and so it has three directed edges (`Face.edges`).  Triangles that lie side by side and
wind the same way go along the edge between them in opposite directions.  So a mesh is
consistently oriented if no directed edge occurs twice (`Mesh.Oriented`).

*Blocks.*  A mesh lists its vertices block by block, and no triangle has corners in two
blocks.  `Shape.Oriented` says of the triangles of a block that they are consistently oriented
and between which numbers their corners are.  It is kept when the triangles of the next block
are put after them (`Shape.Oriented.append`).

*Strokes.*  Within a block the triangles are drawn cell by cell, with the same strokes in each
cell: a stroke goes from one corner of a cell to another.  If any two strokes differ in
direction or length, a directed edge tells the stroke it was drawn with, and so also the cell.
Then nothing is drawn twice, however many cells there are, and cells may also leave out some of
their strokes (`Shape.nodup_drawn`).  Where the corners of cells can be added up, that is all
there is to it, be it in a plane or around a circle.
-/

namespace Scenery

/-- The directed edges of a triangle, in the order in which its corners are gone around. -/
def Face.edges (f : Face) : List (Nat × Nat) := [(f.a, f.b), (f.b, f.c), (f.c, f.a)]

/-- The corners of a triangle are three vertices. -/
structure Face.Proper (f : Face) : Prop where
  ab : f.a ≠ f.b
  bc : f.b ≠ f.c
  ca : f.c ≠ f.a

theorem Face.Proper.nodup_edges {f : Face} (h : f.Proper) : f.edges.Nodup := by
  simp only [edges, List.nodup_cons, List.mem_cons, List.not_mem_nil, or_false, Prod.mk.injEq,
    List.nodup_nil, not_or, not_and, and_true, not_false_eq_true]
  exact ⟨⟨fun hab => absurd hab h.ab, fun hac => absurd hac.symm h.ca⟩,
    fun hbc => absurd hbc h.bc⟩

/-- The directed edges of the triangles of a mesh. -/
def Mesh.edges {α : Type} (m : Mesh α) : List (Nat × Nat) := m.faces.flatMap Face.edges

/-- The triangles of a mesh are consistently oriented: none has a corner twice, and no directed
edge occurs twice. -/
structure Mesh.Oriented {α : Type} (m : Mesh α) : Prop where
  proper : ∀ f ∈ m.faces, f.Proper
  once : m.edges.Nodup

namespace Shape

/-! ## Edges of indices -/

/-- The directed edges of the triangles of a list of indices. -/
def edgesOf (indices : List Nat) : List (Nat × Nat) := (facesOf indices).flatMap Face.edges

theorem edgesOf_append {indices : List Nat} (whole : 3 ∣ indices.length) (more : List Nat) :
    edgesOf (indices ++ more) = edgesOf indices ++ edgesOf more := by
  rw [edgesOf, facesOf_append whole, List.flatMap_append, edgesOf, edgesOf]

theorem whole_flatMap {β : Type} {xs : List β} {turn : β → List Nat}
    (whole : ∀ x ∈ xs, 3 ∣ (turn x).length) : 3 ∣ (xs.flatMap turn).length := by
  induction xs with
  | nil => simp
  | cons x rest ih =>
      obtain ⟨hx, hrest⟩ := List.forall_mem_cons.mp whole
      rw [List.flatMap_cons, List.length_append]
      exact Nat.dvd_add hx (ih hrest)

theorem edgesOf_flatMap {β : Type} {xs : List β} {turn : β → List Nat}
    (whole : ∀ x ∈ xs, 3 ∣ (turn x).length) :
    edgesOf (xs.flatMap turn) = xs.flatMap fun x => edgesOf (turn x) := by
  rw [edgesOf, facesOf_flatMap whole, List.flatMap_assoc]
  rfl

/-- The corners of a triangle are among the indices. -/
theorem mem_of_mem_facesOf {indices : List Nat} {f : Face} (h : f ∈ facesOf indices) :
    f.a ∈ indices ∧ f.b ∈ indices ∧ f.c ∈ indices := by
  induction indices using facesOf.induct with
  | case1 a b c rest ih =>
      rcases List.mem_cons.mp h with rfl | hrest
      · simp
      · obtain ⟨ha, hb, hc⟩ := ih hrest
        simp [ha, hb, hc]
  | case2 indices hshort =>
      rw [facesOf] at h
      · cases h
      · exact hshort

/-- A directed edge starts at one of the indices. -/
theorem start_mem_of_mem_edgesOf {indices : List Nat} {e : Nat × Nat} (h : e ∈ edgesOf indices) :
    e.1 ∈ indices := by
  obtain ⟨f, hf, he⟩ := List.mem_flatMap.mp h
  obtain ⟨ha, hb, hc⟩ := mem_of_mem_facesOf hf
  simp only [Face.edges, List.mem_cons, List.not_mem_nil, or_false] at he
  rcases he with rfl | rfl | rfl
  · exact ha
  · exact hb
  · exact hc

/-- A triangle is one of three vertices if its directed edges join different vertices. -/
theorem proper_of_edgesOf {indices : List Nat} (h : ∀ e ∈ edgesOf indices, e.1 ≠ e.2) :
    ∀ f ∈ facesOf indices, f.Proper := by
  intro f hf
  have hedges : ∀ e ∈ f.edges, e.1 ≠ e.2 := fun e he => h e (List.mem_flatMap.mpr ⟨f, hf, he⟩)
  simp only [Face.edges, List.forall_mem_cons, List.not_mem_nil, false_implies, implies_true,
    and_true] at hedges
  obtain ⟨hab, hbc, hca⟩ := hedges
  exact ⟨hab, hbc, hca⟩

/-! ## Blocks -/

/-- Whole triangles that are consistently oriented, with corners from one number to another. -/
structure Oriented (low high : Nat) (indices : List Nat) : Prop where
  /-- No index is left over. -/
  whole : 3 ∣ indices.length
  /-- No triangle has a corner twice. -/
  proper : ∀ f ∈ facesOf indices, f.Proper
  /-- No directed edge occurs twice. -/
  once : (edgesOf indices).Nodup
  /-- Every index names a vertex of the block. -/
  within : ∀ i ∈ indices, low ≤ i ∧ i < high

namespace Oriented

variable {low middle high : Nat} {indices more : List Nat}

theorem nil : Oriented low high [] := ⟨by simp, by simp [facesOf], List.nodup_nil, by simp⟩

/-- Two blocks that follow one another have no directed edge in common. -/
theorem append (h : Oriented low middle indices) (hmore : Oriented middle high more)
    (hlow : low ≤ middle) (hhigh : middle ≤ high) : Oriented low high (indices ++ more) where
  whole := by
    rw [List.length_append]
    exact Nat.dvd_add h.whole hmore.whole
  proper f hf := by
    rw [facesOf_append h.whole] at hf
    rcases List.mem_append.mp hf with hf | hf
    · exact h.proper f hf
    · exact hmore.proper f hf
  once := by
    rw [edgesOf_append h.whole]
    refine h.once.append hmore.once ?_
    intro e he hother
    have hbefore := (h.within e.1 (start_mem_of_mem_edgesOf he)).2
    have hafter := (hmore.within e.1 (start_mem_of_mem_edgesOf hother)).1
    exact absurd hbefore (Nat.not_lt.mpr hafter)
  within i hi := by
    rcases List.mem_append.mp hi with hi | hi
    · obtain ⟨hle, hlt⟩ := h.within i hi
      exact ⟨hle, Nat.lt_of_lt_of_le hlt hhigh⟩
    · obtain ⟨hle, hlt⟩ := hmore.within i hi
      exact ⟨Nat.le_trans hlow hle, hlt⟩

theorem mesh {α : Type} {m : Mesh α} (h : Oriented low high indices)
    (hm : m.indices = indices.toArray) : m.Oriented := by
  have hfaces : m.faces = facesOf indices := by rw [Mesh.faces, hm]
  constructor
  · rw [hfaces]
    exact h.proper
  · rw [Mesh.edges, hfaces]
    exact h.once

end Oriented

/-! ## Strokes -/

section Strokes

variable {G : Type}

/-- A stroke between two corners of a cell, drawn in the cell at a place. -/
def drawn [Add G] (place : G) (stroke : G × G) : G × G := (place + stroke.1, place + stroke.2)

/-- Two strokes that go equally far in the same direction are one. -/
def Distinct [Add G] (strokes : List (G × G)) : Prop :=
  ∀ e ∈ strokes, ∀ f ∈ strokes, e.1 + f.2 = f.1 + e.2 → e = f

/-- Strokes that are drawn at one place give the same edge only if they are the same, and
equal edges are drawn at one place. -/
theorem drawn_injective [AddCommMonoid G] [IsCancelAdd G] {strokes : List (G × G)}
    (hdistinct : Distinct strokes) {x y : G} {e f : G × G} (he : e ∈ strokes) (hf : f ∈ strokes)
    (h : drawn x e = drawn y f) : x = y ∧ e = f := by
  obtain ⟨hstart, hend⟩ := Prod.mk.inj h
  have hequal : e = f := by
    apply hdistinct e he f hf
    apply add_left_cancel (a := x + y)
    calc x + y + (e.1 + f.2)
        = x + e.1 + (y + f.2) := add_add_add_comm ..
      _ = y + f.1 + (x + e.2) := by rw [hstart, hend]
      _ = x + y + (f.1 + e.2) := by rw [add_add_add_comm, add_comm y x]
  subst hequal
  exact ⟨add_right_cancel hstart, rfl⟩

/-- Drawing with distinct strokes at different places gives no directed edge twice. -/
theorem nodup_drawn [AddCommMonoid G] [IsCancelAdd G] {strokes : List (G × G)}
    (hnodup : strokes.Nodup) (hdistinct : Distinct strokes) {places : List G}
    (hplaces : places.Nodup) {own : G → List (G × G)}
    (hown : ∀ x ∈ places, (own x).Sublist strokes) :
    (places.flatMap fun x => (own x).map (drawn x)).Nodup := by
  refine List.nodup_flatMap.mpr ⟨?_, ?_⟩
  · intro x hx
    refine (hnodup.sublist (hown x hx)).map_on ?_
    intro e he f hf h
    exact (drawn_injective hdistinct ((hown x hx).subset he) ((hown x hx).subset hf) h).2
  · refine hplaces.imp_of_mem ?_
    intro x y hx hy hne edge hedge hother
    obtain ⟨e, he, rfl⟩ := List.mem_map.mp hedge
    obtain ⟨f, hf, h⟩ := List.mem_map.mp hother
    exact hne
      (drawn_injective hdistinct ((hown x hx).subset he) ((hown y hy).subset hf) h.symm).1

end Strokes

end Shape

end Scenery
