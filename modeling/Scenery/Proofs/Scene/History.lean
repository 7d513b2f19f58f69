import Scenery.Proofs.Scene.Memory
import Scenery.Proofs.Scene.Routes

/-!
# Scenes one after another

A pass may be kept and used again, for whole scenes and for the trees of single nodes.
`Catalog.after` is what it is like after any calls.  A scene that is shown next does not
depend on them as far as its groups go, since it forgets the figures before it starts.  It
takes the journal over, and here it does depend on them: the problems that trees have left
in it come first, and are not told again (`Catalog.scene_after_calls`).  A scene leaves
nothing behind, so only the trees since the last scene matter.

`Leftover` is what keeps a scene that starts with problems in step with one that starts
without.
-/

namespace Scenery

variable {α : Type}

/-! ## Calls -/

/-- A call on a pass. -/
inductive Call (α : Type) where
  /-- Show a root to which a material comes down. -/
  | scene (root : String) (material : MaterialHandle α)
  /-- Make the tree of a node to which a material comes down. -/
  | tree (id : String) (material : MaterialHandle α)

namespace Catalog

variable [Angular α]

/-- The pass after a call. -/
def call (c : Catalog α) (p : Pass α) : Call α → Pass α
  | .scene root material => (c.instantiateAfter p.journal root material).2
  | .tree id material => (c.tree id material p).2

/-- The pass after several calls, one after another.  No call follows one in which the program has
stopped, so what a pass is like after that says nothing about the program. -/
def after (c : Catalog α) (calls : List (Call α)) : Pass α := calls.foldl c.call .fresh

end Catalog

/-! ## Starting with problems -/

/-- Two passes remember the same, and one has told what was left to it and then what the
other has told besides. -/
structure Leftover (left : List Diagnostic) (p q : Pass α) : Prop where
  /-- They remember the same. -/
  figures : p.figures = q.figures
  /-- They have built the same. -/
  builds : p.builds = q.builds
  /-- The program has stopped in both or in neither. -/
  stopped : p.stopped = q.stopped
  /-- What is left comes first and is not told again. -/
  problems : p.journal.problems = left ++ q.journal.problems.filter (· ∉ left)

namespace Leftover

variable {left : List Diagnostic} {p q : Pass α}

theorem tell (h : Leftover left p q) (d : Diagnostic) : Leftover left (p.tell d) (q.tell d) where
  figures := h.figures
  builds := h.builds
  stopped := h.stopped
  problems := by
    have hmem : d ∈ p.journal.problems ↔ d ∈ left ∨ d ∈ q.journal.problems := by
      by_cases hleft : d ∈ left <;> simp [h.problems, hleft]
    simp only [Pass.tell, Journal.problems_addOnce]
    -- a problem that is left is not told again, whether the other pass tells it now or not
    by_cases hleft : d ∈ left
    · rw [if_pos (hmem.mpr (Or.inl hleft)), h.problems]
      split
      · rfl
      · simp [List.filter_append, hleft]
    · by_cases hq : d ∈ q.journal.problems
      · rw [if_pos (hmem.mpr (Or.inr hq)), if_pos hq, h.problems]
      · rw [if_neg (by simp [hmem, hleft, hq]), if_neg hq, h.problems]
        simp [List.filter_append, hleft]

theorem note (h : Leftover left p q) (n : Note) : Leftover left (p.note n) (q.note n) where
  figures := h.figures
  builds := h.builds
  stopped := h.stopped
  problems := by
    simp only [Pass.note, Journal.problems_note]
    exact h.problems

theorem remember (h : Leftover left p q) (id : String) (built : Built α) :
    Leftover left (p.remember id built) (q.remember id built) where
  figures := by rw [Pass.remember, Pass.remember, h.figures]
  builds := by rw [Pass.remember, Pass.remember, h.builds]
  stopped := h.stopped
  problems := h.problems

theorem inStep (left : List Diagnostic) : Pass.InStep (Leftover (α := α) left) where
  figures h := h.figures
  builds h := h.builds
  remember h id built := h.remember id built
  tell h _ _ := h.tell _
  note h n := h.note n
  stop h := ⟨h.figures, h.builds, rfl, h.problems⟩

variable [Angular α]

/-- A pass that starts with problems goes along with one that starts without. -/
theorem follows (d : NodeDictionary α) (left : List Diagnostic) :
    Workshop.remembering.Follows d Workshop.remembering (Leftover left) where
  answer _ h := ((inStep left).figure h _ _).1
  figure _ h := ((inStep left).figure h _ _).2
  tell h := h.tell _
  note h := h.note _

end Leftover

namespace Catalog

variable [Angular α] {c : Catalog α}

/-- What came up before a scene comes first and is not told again.  It makes no difference to the
groups, or to whether the program stops. -/
theorem instantiateAfter_leftover (h : c.nodes.Consistent) (journal : Journal) (root : String)
    (material : MaterialHandle α) :
    (c.instantiateAfter journal root material).1.trees = (c.instantiate root material).trees ∧
      (c.instantiateAfter journal root material).1.problems = journal.problems ++
        (c.instantiate root material).problems.filter (· ∉ journal.problems) ∧
      (c.instantiateAfter journal root material).2.stopped =
        (c.instantiateAfter .empty root material).2.stopped := by
  have hstart : Leftover journal.problems (start journal : Pass α) (start .empty) :=
    ⟨rfl, rfl, rfl, by simp [start]⟩
  obtain ⟨q, hshown, hproblems, hpass⟩ := showIn_remembering h journal root material
  obtain ⟨r, hfresh, hfreshProblems, hfreshPass⟩ := showIn_remembering h .empty root material
  obtain ⟨_, _, _, hw, hv, hleft⟩ :=
    (Leftover.follows c.nodes journal.problems).exists_scene h hstart root material
  obtain ⟨rfl, rfl⟩ := Prod.mk.inj (hw.symm.trans hshown)
  obtain ⟨htrees, rfl⟩ := Prod.mk.inj (hv.symm.trans hfresh)
  refine ⟨htrees, ?_, ?_⟩
  · rw [hproblems, hleft.problems]
    exact congrArg (fun problems => _ ++ List.filter _ problems) hfreshProblems.symm
  · rw [hpass, hfreshPass]
    exact hleft.stopped

/-- Whatever was called on a pass before, a scene has the groups of one that is shown
first.  It tells what the calls have left in the journal, and then what is new.  It leaves
nothing in the journal itself, and the program stops if it stops while it is shown first. -/
theorem scene_after_calls (nodes : List (Node α)) (materials : MaterialTable α)
    (textures : TextureTable) (calls : List (Call α)) (root : String)
    (material : MaterialHandle α) :
    let c : Catalog α := ⟨.ofList nodes, materials, textures⟩
    let left := (c.after calls).journal.problems
    let scene := (c.instantiateAfter (c.after calls).journal root material).1
    scene.trees = (c.instantiate root material).trees ∧
      scene.problems = left ++ (c.instantiate root material).problems.filter (· ∉ left) ∧
      (c.after (calls ++ [.scene root material])).journal = .empty ∧
      (c.after (calls ++ [.scene root material])).stopped =
        (c.instantiateAfter .empty root material).2.stopped := by
  intro c left scene
  obtain ⟨htrees, hproblems, hstopped⟩ := instantiateAfter_leftover (c := c)
    (NodeDictionary.consistent_ofList nodes) (c.after calls).journal root material
  have hafter : c.after (calls ++ [.scene root material]) =
      (c.instantiateAfter (c.after calls).journal root material).2 := by
    unfold after
    rw [List.foldl_append]
    rfl
  rw [hafter]
  exact ⟨htrees, hproblems, rfl, hstopped⟩

/-- Two nodes, one of which lists an id that is no node. -/
def apart : List (Node Float32) := [plainNode "tree" ["nowhere"], plainNode "leaf" []]

/-- The tree of the one leaves its problem to a scene of the other. -/
theorem problems_after_tree :
    let c : Catalog Float32 := ⟨.ofList apart, .empty, .empty⟩
    let left := (c.after [.tree "tree" (.free .neutral)]).journal
    (c.instantiateAfter left "leaf" (.free .neutral)).1.problems =
        [.danglingChild "tree" "nowhere"] ∧
      (c.instantiate "leaf" (.free .neutral)).problems = [] := by
  intro c left
  have htree : c.nodes.get? "tree" = some (plainNode "tree" ["nowhere"]) :=
    NodeDictionary.get?_ofList apart "tree"
  have hleaf : c.nodes.get? "leaf" = some (plainNode "leaf" []) :=
    NodeDictionary.get?_ofList apart "leaf"
  have hnowhere : c.nodes.get? "nowhere" = none := NodeDictionary.get?_ofList apart "nowhere"
  have hleft : left.problems = [.danglingChild "tree" "nowhere"] := by
    simp only [left, after, List.foldl_cons, List.foldl_nil, call, tree, htree, plainNode,
      below_dangling hnowhere, below_nil]
    rfl
  have hfresh : (c.instantiate "leaf" (.free .neutral)).problems = [] := by
    simp only [instantiate, instantiateAfter, NodeDictionary.contains_of_get? hleaf, if_true, tree,
      hleaf, plainNode, below_nil, Scene.problems, Journal.problems_note]
    rfl
  refine ⟨?_, hfresh⟩
  have hconsistent : c.nodes.Consistent := NodeDictionary.consistent_ofList apart
  rw [(instantiateAfter_leftover hconsistent left "leaf" (.free .neutral)).2.1, hfresh, hleft]
  rfl

end Catalog

end Scenery
