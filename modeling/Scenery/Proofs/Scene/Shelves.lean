import Scenery.Proofs.Scene.Memory

/-!
# Figures on two shelves

A pass remembers under one id either a figure that was built or the reason why it could not be.
One may as well keep the two apart, on a shelf for the shapes and a shelf for the failures
(`Shelves`).  A figure that is asked for is looked up on the first shelf, then on the second, and
is put on one of them if it is on neither.

A walk with two shelves goes along with the walk of a pass (`Shelves.Mirrors`), so it makes the
same trees and the same journal.  What the shelves hold is put there once and stays
(`Shelves.Grows`), no id is on both of them, and what is on a shelf is what the figure of the
node with that id comes to (`Shelves.Orderly`).  All this is kept by whatever a walk does
(`Workshop.Preserves`).
-/

namespace Scenery

/-! ## What a walk keeps -/

/-- A workshop keeps a property of its state. -/
structure Workshop.Preserves {α σ : Type} (d : NodeDictionary α) (w : Workshop α σ)
    (P : σ → Prop) : Prop where
  figure : ∀ {id : String} {f : Figure α} {s : σ}, d.Carries id f → P s → P (w.figure id f s).2
  tell : ∀ {p : Diagnostic} {s : σ}, P s → P (w.tell p s)
  note : ∀ {n : Note} {s : σ}, P s → P (w.note n s)

namespace Workshop.Preserves

variable {α σ : Type} {d : NodeDictionary α} {w : Workshop α σ} {P Q : σ → Prop}

/-- Two facts about the state that figures preserve are preserved together. -/
theorem and (h : Preserves d w P) (k : Preserves d w Q) : Preserves d w fun s => P s ∧ Q s where
  figure carried hs := ⟨h.figure carried hs.1, k.figure carried hs.2⟩
  tell hs := ⟨h.tell hs.1, k.tell hs.2⟩
  note hs := ⟨h.note hs.1, k.note hs.2⟩

/-- A workshop that keeps a property goes along with itself. -/
theorem follows (h : Preserves d w P) : w.Follows d w fun s t => s = t ∧ P s where
  answer _ hs := by rw [hs.1]
  figure carried hs := ⟨by rw [hs.1], h.figure carried hs.2⟩
  tell hs := ⟨by rw [hs.1], h.tell hs.2⟩
  note hs := ⟨by rw [hs.1], h.note hs.2⟩

variable [Angular α] {c : Catalog α}

/-- What every figure of a walk preserves, a single group with its own figure preserves. -/
theorem group (h : Preserves c.nodes w P) {s : σ} (hs : P s) {id : String} {node : Node α}
    (found : c.nodes.get? id = some node) (hid : node.id = id) (material : MaterialHandle α) :
    P (c.groupIn w node material s).2 := by
  obtain ⟨_, t, _, hw, -, -, ht⟩ := h.follows.exists_group ⟨rfl, hs⟩ found hid material
  rw [hw]
  exact ht

/-- What every figure of a walk preserves, the whole walk below a node preserves. -/
theorem below (h : Preserves c.nodes w P) (hc : c.nodes.Consistent) {s : σ} (hs : P s)
    (path : List String) (parent : String) (material : MaterialHandle α)
    (children : List String) : P (c.belowIn w path parent material children s).2 := by
  obtain ⟨_, t, _, hw, -, -, ht⟩ :=
    h.follows.exists_below hc ⟨rfl, hs⟩ path parent material children
  rw [hw]
  exact ht

end Workshop.Preserves

/-! ## Shelves -/

/-- What a walk with two shelves remembers. -/
structure Shelves (α : Type) where
  /-- The shapes of the figures that were built, by the ids of their nodes. -/
  shapes : Std.HashMap String (PlacedMesh α)
  /-- Why the other figures cannot be built. -/
  failures : Std.HashMap String GeometryError
  /-- The nodes of both, in the order in which they were put there. -/
  builds : Array String
  /-- Whether the program has stopped while it built a figure. -/
  stopped : Bool
  /-- What came up. -/
  journal : Journal

namespace Shelves

variable {α : Type}

/-- Empty shelves, after what came up so far. -/
def clear (journal : Journal) : Shelves α := ⟨∅, ∅, #[], false, journal⟩

/-- Tell a problem once. -/
def tell (s : Shelves α) (d : Diagnostic) : Shelves α := { s with journal := s.journal.addOnce d }

/-- Make a note. -/
def note (s : Shelves α) (n : Note) : Shelves α := { s with journal := s.journal.note n }

/-- Put a shape on the first shelf. -/
def putShape (s : Shelves α) (id : String) (placed : PlacedMesh α) : Shelves α :=
  { s with shapes := s.shapes.insert id placed, builds := s.builds.push id }

/-- Put on the second shelf why there is no shape. -/
def putFailure (s : Shelves α) (id : String) (error : GeometryError) : Shelves α :=
  { s with failures := s.failures.insert id error, builds := s.builds.push id }

variable [Angular α]

/-- Build a figure, put it on one of the shelves, and tell how it went. -/
def buildFigure (s : Shelves α) (id : String) (figure : Figure α) :
    Option (Built α) × Shelves α :=
  match figure.build? with
  | none => (none, { s with stopped := true })
  | some (.ok shape) =>
      let placed := .ofShape s.builds.size shape
      (some (.ok placed),
        (s.putShape id placed).note (.meshBuilt id figure.tag shape.mesh.triangleCount))
  | some (.error error) =>
      (some (.error error), (s.putFailure id error).tell (.geometry id error))

/-- The figure of a node, built when it is on neither shelf. -/
def figure (s : Shelves α) (id : String) (figure : Figure α) : Option (Built α) × Shelves α :=
  match s.shapes[id]?, s.failures[id]? with
  | some placed, _ => (some (.ok placed), s)
  | none, some error => (some (.error error), s)
  | none, none => s.buildFigure id figure

end Shelves

/-- The workshop with two shelves. -/
def Workshop.shelving {α : Type} [Angular α] : Workshop α (Shelves α) where
  figure id f s := s.figure id f
  tell d s := s.tell d
  note n s := s.note n

namespace Shelves

variable {α : Type} {s t : Shelves α} {id : String}

/-! ## Tables -/

section Table

variable {β : Type} {table : Std.HashMap String β} {other : String} {b : β}

/-- An id under which the table has nothing is not one of its keys. -/
theorem not_mem_of_none (h : table[id]? = none) : id ∉ table := by
  rw [Std.HashMap.mem_iff_isSome_getElem?, h]
  exact Bool.false_ne_true

/-- An insertion adds its own key to a table and no other. -/
theorem mem_insert_iff : other ∈ table.insert id b ↔ other = id ∨ other ∈ table := by
  rw [Std.HashMap.mem_insert, beq_iff_eq]
  exact or_congr_left eq_comm

/-- A new entry leaves the others alone. -/
theorem getElem?_insert_of_some (hnone : table[id]? = none) {held : β}
    (h : table[other]? = some held) : (table.insert id b)[other]? = some held := by
  rw [Std.HashMap.getElem?_insert]
  split
  next he =>
    obtain rfl : id = other := beq_iff_eq.mp he
    rw [hnone] at h
    cases h
  next => exact h

/-- What holds of every entry and of a new one holds of every entry then. -/
theorem forall_insert {P : String → β → Prop} (h : ∀ other held, table[other]? = some held →
    P other held) (hnew : P id b) :
    ∀ other held, (table.insert id b)[other]? = some held → P other held := by
  intro other held hheld
  rw [Std.HashMap.getElem?_insert] at hheld
  split at hheld
  next he =>
    obtain rfl : id = other := beq_iff_eq.mp he
    exact Option.some.inj hheld ▸ hnew
  next => exact h other held hheld

end Table

/-! ## Figures on shelves -/

section

variable [Angular α] {f : Figure α}

/-- A shape on the shelf is handed out again, and nothing changes. -/
theorem figure_of_shape {placed : PlacedMesh α} (h : s.shapes[id]? = some placed) :
    s.figure id f = (some (.ok placed), s) := by
  simp only [figure, h]

/-- A failure on the shelf is reported again without a second try, and nothing changes. -/
theorem figure_of_failure {e : GeometryError} (h : s.shapes[id]? = none)
    (hfailure : s.failures[id]? = some e) : s.figure id f = (some (.error e), s) := by
  simp only [figure, h, hfailure]

/-- A figure on neither shelf is built. -/
theorem figure_of_none (h : s.shapes[id]? = none) (hfailure : s.failures[id]? = none) :
    s.figure id f = s.buildFigure id f := by
  simp only [figure, h, hfailure]

/-- A build that gives nothing stops the pass: both shelves stay as they were. -/
theorem buildFigure_stopped (hb : f.build? = none) :
    s.buildFigure id f = (none, { s with stopped := true }) := by
  simp only [buildFigure, hb]

/-- A shape that was built goes to the shelf of shapes, with a note in the journal. -/
theorem buildFigure_ok {shape : Shape α} (hb : f.build? = some (.ok shape)) :
    s.buildFigure id f =
      (some (.ok (.ofShape s.builds.size shape)),
        (s.putShape id (.ofShape s.builds.size shape)).note
          (.meshBuilt id f.tag shape.mesh.triangleCount)) := by
  simp only [buildFigure, hb]

/-- A failed build goes to the shelf of failures, with a problem in the journal. -/
theorem buildFigure_error {e : GeometryError} (hb : f.build? = some (.error e)) :
    s.buildFigure id f = (some (.error e), (s.putFailure id e).tell (.geometry id e)) := by
  simp only [buildFigure, hb]

/-- What becomes of a state when a figure is asked for: nothing, or the figure is on neither
shelf, and the program stops or the figure is put on one of them. -/
theorem figure_cases (s : Shelves α) (id : String) (f : Figure α) :
    (s.figure id f).2 = s ∨ s.shapes[id]? = none ∧ s.failures[id]? = none ∧
      (f.build? = none ∧ (s.figure id f).2 = { s with stopped := true } ∨
        (∃ shape, f.build? = some (.ok shape) ∧ (s.figure id f).2 =
          (s.putShape id (.ofShape s.builds.size shape)).note
            (.meshBuilt id f.tag shape.mesh.triangleCount)) ∨
        ∃ e, f.build? = some (.error e) ∧ (s.figure id f).2 =
          (s.putFailure id e).tell (.geometry id e)) := by
  cases hshape : s.shapes[id]? with
  | some placed => exact Or.inl (by rw [figure_of_shape hshape])
  | none =>
      cases hfailure : s.failures[id]? with
      | some e => exact Or.inl (by rw [figure_of_failure hshape hfailure])
      | none =>
          refine Or.inr ⟨rfl, rfl, ?_⟩
          rw [figure_of_none hshape hfailure]
          match hb : f.build? with
          | none => exact Or.inl ⟨rfl, by rw [buildFigure_stopped hb]⟩
          | some (.ok shape) =>
              exact Or.inr (Or.inl ⟨shape, rfl, by rw [buildFigure_ok hb]⟩)
          | some (.error e) => exact Or.inr (Or.inr ⟨e, rfl, by rw [buildFigure_error hb]⟩)

end

/-! ## Shelves beside a pass -/

/-- What there is of an id: a shape from the first shelf, or else a failure from the second. -/
def held? (s : Shelves α) (id : String) : Option (Built α) :=
  (s.shapes[id]?.map Except.ok).or (s.failures[id]?.map Except.error)

/-- The shelf of shapes is looked at first. -/
theorem held?_of_shape {placed : PlacedMesh α} (h : s.shapes[id]? = some placed) :
    s.held? id = some (.ok placed) := by
  simp only [held?, h, Option.map_some, Option.some_or]

/-- Without a shape, what is held is the failure, if there is one. -/
theorem held?_of_no_shape (h : s.shapes[id]? = none) :
    s.held? id = s.failures[id]?.map Except.error := by
  simp only [held?, h, Option.map_none, Option.none_or]

/-- A shape put on its shelf is what is held under its id, whatever was held before. -/
theorem held?_putShape (s : Shelves α) (id other : String) (placed : PlacedMesh α) :
    (s.putShape id placed).held? other =
      if id == other then some (.ok placed) else s.held? other := by
  simp only [held?, putShape, Std.HashMap.getElem?_insert]
  split
  · rfl
  · rfl

/-- A failure put on its shelf is what is held under its id, unless a shape hides it. -/
theorem held?_putFailure (h : s.shapes[id]? = none) (other : String) (e : GeometryError) :
    (s.putFailure id e).held? other = if id == other then some (.error e) else s.held? other := by
  simp only [held?, putFailure, Std.HashMap.getElem?_insert]
  split
  next he =>
    obtain rfl : id = other := beq_iff_eq.mp he
    simp only [h, Option.map_none, Option.none_or, Option.map_some]
  next => rfl

/-- A pass remembers what is on two shelves, both have built the same figures, and the journals
are the same. -/
structure Mirrors (p : Pass α) (s : Shelves α) : Prop where
  journal : s.journal = p.journal
  builds : s.builds = p.builds
  stopped : s.stopped = p.stopped
  figures : ∀ id : String, p.figures[id]? = s.held? id

namespace Mirrors

variable {p : Pass α}

/-- A pass that starts and two cleared shelves agree. -/
theorem clear (journal : Journal) : Mirrors (Catalog.start journal : Pass α) (.clear journal) where
  journal := rfl
  builds := rfl
  stopped := rfl
  figures id := by simp [Catalog.start, Pass.fresh, Shelves.clear, held?]

theorem tell (h : Mirrors p s) (d : Diagnostic) : Mirrors (p.tell d) (s.tell d) where
  journal := congrArg (Journal.addOnce · d) h.journal
  builds := h.builds
  stopped := h.stopped
  figures := h.figures

theorem note (h : Mirrors p s) (n : Note) : Mirrors (p.note n) (s.note n) where
  journal := congrArg (Journal.note · n) h.journal
  builds := h.builds
  stopped := h.stopped
  figures := h.figures

/-- A pass remembers a shape, and it is put on the first shelf. -/
theorem putShape (h : Mirrors p s) (id : String) (placed : PlacedMesh α) :
    Mirrors (p.remember id (.ok placed)) (s.putShape id placed) where
  journal := h.journal
  builds := congrArg (Array.push · id) h.builds
  stopped := h.stopped
  figures other := by
    rw [Pass.remember, Std.HashMap.getElem?_insert, held?_putShape, h.figures]

/-- A pass remembers why there is no shape, and it is put on the second shelf. -/
theorem putFailure (h : Mirrors p s) (hnone : s.shapes[id]? = none) (e : GeometryError) :
    Mirrors (p.remember id (.error e)) (s.putFailure id e) where
  journal := h.journal
  builds := congrArg (Array.push · id) h.builds
  stopped := h.stopped
  figures other := by
    rw [Pass.remember, Std.HashMap.getElem?_insert, held?_putFailure hnone, h.figures]

variable [Angular α]

/-- A figure that is asked for comes from the shelves as it comes from the pass. -/
theorem figure (h : Mirrors p s) (id : String) (f : Figure α) :
    (p.figure id f).1 = (s.figure id f).1 ∧ Mirrors (p.figure id f).2 (s.figure id f).2 := by
  cases hshape : s.shapes[id]? with
  | some placed =>
      rw [figure_of_shape hshape,
        Pass.figure_of_some ((h.figures id).trans (held?_of_shape hshape))]
      exact ⟨rfl, h⟩
  | none =>
      have hheld : p.figures[id]? = s.failures[id]?.map Except.error :=
        (h.figures id).trans (held?_of_no_shape hshape)
      cases hfailure : s.failures[id]? with
      | some e =>
          rw [hfailure] at hheld
          rw [figure_of_failure hshape hfailure, Pass.figure_of_some hheld]
          exact ⟨rfl, h⟩
      | none =>
          rw [hfailure] at hheld
          rw [figure_of_none hshape hfailure, Pass.figure_of_none hheld]
          match hb : f.build? with
          | none =>
              rw [Pass.buildFigure_stopped hb, Shelves.buildFigure_stopped hb]
              exact ⟨rfl, h.journal, h.builds, rfl, h.figures⟩
          | some (.ok shape) =>
              rw [Pass.buildFigure_ok hb, Shelves.buildFigure_ok hb, h.builds]
              exact ⟨rfl, (h.putShape id _).note _⟩
          | some (.error e) =>
              rw [Pass.buildFigure_error hb, Shelves.buildFigure_error hb]
              exact ⟨rfl, (h.putFailure hshape e).tell _⟩

end Mirrors

/-- A walk with two shelves goes along with the walk of a pass. -/
theorem remembering_follows_shelving [Angular α] (d : NodeDictionary α) :
    Workshop.remembering.Follows d Workshop.shelving Mirrors where
  answer _ h := (h.figure _ _).1
  figure _ h := (h.figure _ _).2
  tell h := h.tell _
  note h := h.note _

/-! ## What stays -/

/-- What is on the shelves and in the journal stays, and more may come. -/
structure Grows (s t : Shelves α) : Prop where
  shapes : ∀ (id : String) (placed : PlacedMesh α),
    s.shapes[id]? = some placed → t.shapes[id]? = some placed
  failures : ∀ (id : String) (e : GeometryError),
    s.failures[id]? = some e → t.failures[id]? = some e
  /-- Problems are only added at the end. -/
  problems : s.journal.problems <+: t.journal.problems

namespace Grows

/-- Shelves grow into themselves. -/
theorem refl (s : Shelves α) : s.Grows s := ⟨fun _ _ => id, fun _ _ => id, List.prefix_rfl⟩

/-- A problem told leaves both shelves alone and the journal longer. -/
theorem tell (h : s.Grows t) (d : Diagnostic) : s.Grows (t.tell d) where
  shapes := h.shapes
  failures := h.failures
  problems := by
    refine h.problems.trans ?_
    simp only [Shelves.tell, Journal.problems_addOnce]
    split
    · exact List.prefix_rfl
    · exact List.prefix_append ..

/-- A note leaves both shelves alone and the journal's problems as they are. -/
theorem note (h : s.Grows t) (n : Note) : s.Grows (t.note n) where
  shapes := h.shapes
  failures := h.failures
  problems := by
    rw [Shelves.note, Journal.problems_note]
    exact h.problems

/-- A stop leaves both shelves alone. -/
theorem stop (h : s.Grows t) : s.Grows { t with stopped := true } :=
  ⟨h.shapes, h.failures, h.problems⟩

/-- A shape under a fresh id hides nothing that was on the shelves. -/
theorem putShape (h : s.Grows t) (hnone : t.shapes[id]? = none) (placed : PlacedMesh α) :
    s.Grows (t.putShape id placed) where
  shapes _ _ hs := getElem?_insert_of_some hnone (h.shapes _ _ hs)
  failures := h.failures
  problems := h.problems

/-- A failure under a fresh id hides nothing that was on the shelves. -/
theorem putFailure (h : s.Grows t) (hnone : t.failures[id]? = none) (e : GeometryError) :
    s.Grows (t.putFailure id e) where
  shapes := h.shapes
  failures _ _ hs := getElem?_insert_of_some hnone (h.failures _ _ hs)
  problems := h.problems

/-- No figure of a walk takes anything off the shelves. -/
theorem preserves [Angular α] (d : NodeDictionary α) (s : Shelves α) :
    Workshop.shelving.Preserves d s.Grows where
  figure {id f t} _ h := by
    change s.Grows (t.figure id f).2
    rcases t.figure_cases id f with hsame | ⟨hshape, hfailure, ⟨-, hput⟩ | ⟨shape, -, hput⟩ |
      ⟨e, -, hput⟩⟩
    · rw [hsame]
      exact h
    · rw [hput]
      exact h.stop
    · rw [hput]
      exact (h.putShape hshape _).note _
    · rw [hput]
      exact (h.putFailure hfailure e).tell _
  tell h := h.tell _
  note h := h.note _

end Grows

/-! ## What is on the shelves -/

/-- The shelves are in order: nothing is on both, what is on them is what the figures of the
nodes come to, and nothing was told twice. -/
structure Orderly [Angular α] (d : NodeDictionary α) (s : Shelves α) : Prop where
  /-- No id is on both shelves. -/
  apart : ∀ id, ¬ (id ∈ s.shapes ∧ id ∈ s.failures)
  /-- A shape is what the figure of a node was built to. -/
  shapes : ∀ (id : String) (placed : PlacedMesh α), s.shapes[id]? = some placed →
    ∃ f, d.Carries id f ∧ f.build? = some (.ok placed.shape)
  /-- A failure is why the figure of a node cannot be built. -/
  failures : ∀ (id : String) (e : GeometryError), s.failures[id]? = some e →
    ∃ f, d.Carries id f ∧ f.build? = some (.error e)
  /-- No problem was told twice. -/
  problems : s.journal.problems.Nodup

namespace Orderly

variable [Angular α] {d : NodeDictionary α} {f : Figure α}

/-- Cleared shelves are in order when the journal repeats no problem. -/
theorem clear {journal : Journal} (h : journal.problems.Nodup) : Orderly d (.clear journal) where
  apart id := by simp [Shelves.clear]
  shapes id placed hs := by simp [Shelves.clear] at hs
  failures id e hs := by simp [Shelves.clear] at hs
  problems := h

/-- A problem is written down once, so telling it keeps the order. -/
theorem tell (h : s.Orderly d) (p : Diagnostic) : (s.tell p).Orderly d where
  apart := h.apart
  shapes := h.shapes
  failures := h.failures
  problems := Journal.nodup_problems_addOnce h.problems p

theorem note (h : s.Orderly d) (n : Note) : (s.note n).Orderly d where
  apart := h.apart
  shapes := h.shapes
  failures := h.failures
  problems := by
    rw [Shelves.note, Journal.problems_note]
    exact h.problems

theorem stop (h : s.Orderly d) : Orderly d { s with stopped := true } :=
  ⟨h.apart, h.shapes, h.failures, h.problems⟩

/-- A shape that its own figure gave keeps the shelves in order, if no failure has its id. -/
theorem putShape (h : s.Orderly d) (carried : d.Carries id f) (hnone : s.failures[id]? = none)
    (placed : PlacedMesh α) (hb : f.build? = some (.ok placed.shape)) :
    (s.putShape id placed).Orderly d where
  apart other hmem := by
    obtain rfl | hshape := mem_insert_iff.mp hmem.1
    · exact not_mem_of_none hnone hmem.2
    · exact h.apart other ⟨hshape, hmem.2⟩
  shapes := forall_insert h.shapes ⟨f, carried, hb⟩
  failures := h.failures
  problems := h.problems

/-- A failure that its own figure gave keeps the shelves in order, if no shape has its id. -/
theorem putFailure (h : s.Orderly d) (carried : d.Carries id f) (hnone : s.shapes[id]? = none)
    {e : GeometryError} (hb : f.build? = some (.error e)) : (s.putFailure id e).Orderly d where
  apart other hmem := by
    obtain rfl | hfailure := mem_insert_iff.mp hmem.2
    · exact not_mem_of_none hnone hmem.1
    · exact h.apart other ⟨hmem.1, hfailure⟩
  shapes := h.shapes
  failures := forall_insert h.failures ⟨f, carried, hb⟩
  problems := h.problems

/-- Every figure of a walk leaves the shelves in order. -/
theorem preserves (d : NodeDictionary α) : Workshop.shelving.Preserves d (Orderly d) where
  figure {id f s} carried h := by
    change (s.figure id f).2.Orderly d
    rcases s.figure_cases id f with hsame | ⟨hshape, hfailure, ⟨-, hput⟩ | ⟨shape, hb, hput⟩ |
      ⟨e, hb, hput⟩⟩
    · rw [hsame]
      exact h
    · rw [hput]
      exact h.stop
    · rw [hput]
      exact (h.putShape carried hfailure (.ofShape s.builds.size shape) hb).note _
    · rw [hput]
      exact (h.putFailure carried hshape hb).tell _
  tell h := h.tell _
  note h := h.note _

end Orderly

end Shelves

end Scenery
