import Scenery.Proofs.Scene.Memory
import Scenery.Proofs.Tree

/-!
# Scenes without their materials

Which materials and textures there are, and with which material a root is shown, makes no
difference to the structure of a scene.  Once every group and every mesh is given one and the
same material, two scenes of one root are equal, and they tell the same problems but for
those with materials and textures (`Catalog.undressed_instantiateAfter`).

*Two walks side by side.*  The walks go over the same nodes with different tables.  Their
journals need not even be of one length, since one walk may miss a material that the other
finds.  What keeps them in step is that they remember the same figures, and that their
journals are the same *apart from looks* (`Pass.Undressed`).  A problem with a material or a
texture is told in either journal without notice.  Any other problem is told in both or in
neither: it is among the ones that count, so both hold it already or none does.

*Groups.*  Two groups of a node differ by their materials and by what their meshes look like.
The material that comes down decides neither whether there is a mesh nor which one.
-/

namespace Scenery

variable {α : Type}

/-! ## Problems apart from looks -/

/-- Whether a problem is one with a material or a texture. -/
def Diagnostic.isOfLooks : Diagnostic → Bool
  | .unknownMaterial .. | .unknownTexture .. => true
  | _ => false

/-- The problems that are not about materials and textures. -/
def Diagnostic.apartFromLooks (problems : List Diagnostic) : List Diagnostic :=
  problems.filter fun d => !d.isOfLooks

namespace Journal

variable {j k : Journal} {d : Diagnostic}

/-- A problem with looks is told without notice. -/
theorem apartFromLooks_addOnce (hd : d.isOfLooks = true) :
    Diagnostic.apartFromLooks (j.addOnce d).problems =
      Diagnostic.apartFromLooks j.problems := by
  rw [problems_addOnce]
  split
  next => rfl
  next => simp [Diagnostic.apartFromLooks, hd]

theorem mem_apartFromLooks (hd : d.isOfLooks = false) :
    d ∈ Diagnostic.apartFromLooks j.problems ↔ d ∈ j.problems := by
  simp [Diagnostic.apartFromLooks, hd]

/-- Any other problem is told in both of two journals or in neither. -/
theorem apartFromLooks_congr
    (h : Diagnostic.apartFromLooks j.problems = Diagnostic.apartFromLooks k.problems)
    (hd : d.isOfLooks = false) :
    Diagnostic.apartFromLooks (j.addOnce d).problems =
      Diagnostic.apartFromLooks (k.addOnce d).problems := by
  have hmem : d ∈ j.problems ↔ d ∈ k.problems := by
    rw [← mem_apartFromLooks hd, h, mem_apartFromLooks hd]
  rw [problems_addOnce, problems_addOnce]
  by_cases htold : d ∈ k.problems
  · rw [if_pos htold, if_pos (hmem.mpr htold)]
    exact h
  · rw [if_neg htold, if_neg (mt hmem.mp htold)]
    unfold Diagnostic.apartFromLooks at h ⊢
    rw [List.filter_append, List.filter_append, h]

end Journal

/-- Two passes remember the same, have built the same, and have told the same apart from looks.
The program has stopped in both or in neither. -/
structure Pass.Undressed (p q : Pass α) : Prop where
  figures : p.figures = q.figures
  builds : p.builds = q.builds
  stopped : p.stopped = q.stopped
  problems : Diagnostic.apartFromLooks p.journal.problems =
    Diagnostic.apartFromLooks q.journal.problems

namespace Pass.Undressed

variable {p q : Pass α}

theorem tell (h : Undressed p q) {d : Diagnostic} (hd : d.isOfLooks = false) :
    Undressed (p.tell d) (q.tell d) :=
  ⟨h.figures, h.builds, h.stopped, Journal.apartFromLooks_congr h.problems hd⟩

theorem note (h : Undressed p q) (n m : Note) : Undressed (p.note n) (q.note m) where
  figures := h.figures
  builds := h.builds
  stopped := h.stopped
  problems := by
    rw [Pass.note, Pass.note, Journal.problems_note, Journal.problems_note]
    exact h.problems

/-- Each pass may tell a problem with looks of its own. -/
theorem tellLooks (h : Undressed p q) {x y : Option Diagnostic}
    (hx : ∀ d, x = some d → d.isOfLooks = true) (hy : ∀ d, y = some d → d.isOfLooks = true) :
    Undressed (x.elim p p.tell) (y.elim q q.tell) := by
  have hleft : Undressed (x.elim p p.tell) q := by
    cases x with
    | none => exact h
    | some d =>
        exact ⟨h.figures, h.builds, h.stopped,
          (Journal.apartFromLooks_addOnce (hx d rfl)).trans h.problems⟩
  cases y with
  | none => exact hleft
  | some d =>
      exact ⟨hleft.figures, hleft.builds, hleft.stopped,
        hleft.problems.trans (Journal.apartFromLooks_addOnce (hy d rfl)).symm⟩

theorem remember (h : Undressed p q) (id : String) (built : Built α) :
    Undressed (p.remember id built) (q.remember id built) where
  figures := by rw [Pass.remember, Pass.remember, h.figures]
  builds := by rw [Pass.remember, Pass.remember, h.builds]
  stopped := h.stopped
  problems := h.problems

theorem inStep : Pass.InStep (Undressed (α := α)) where
  figures h := h.figures
  builds h := h.builds
  remember h id built := h.remember id built
  tell h _ _ := h.tell rfl
  note h n := h.note n n
  stop h := ⟨h.figures, h.builds, rfl, h.problems⟩

end Pass.Undressed

/-! ## Groups in one material -/

/-- A look with one material for all, and no video. -/
def MeshMaterial.wearing (m : MaterialHandle α) : MeshMaterial α → MeshMaterial α
  | .shared _ => .shared m
  | .vertexColors => .vertexColors
  | .video _ => .video none

/-- What is in a group, with one material for all. -/
def SceneObject.wearing (m : MaterialHandle α) : SceneObject α → SceneObject α
  | .mesh i => .mesh { i with material := i.material.wearing m }
  | .light l => .light l

/-- A group with one material for all. -/
def Group.wearing (m : MaterialHandle α) (g : Group α) : Group α :=
  { g with material := m, objects := g.objects.map (SceneObject.wearing m) }

namespace Catalog

variable {b c : Catalog α} {n : Node α}

theorem isOfLooks_unknownMaterial {d : Diagnostic} (h : c.unknownMaterial? n = some d) :
    d.isOfLooks = true := by
  obtain ⟨name, -, hd⟩ := Option.bind_eq_some_iff.mp h
  split at hd
  next => cases hd; rfl
  next => cases hd

theorem isOfLooks_unknownTexture {id : String} {f : Figure α} {d : Diagnostic}
    (h : c.unknownTexture? id f = some d) : d.isOfLooks = true := by
  cases f with
  | video v =>
      simp only [unknownTexture?] at h
      split at h
      next => cases h; rfl
      next => cases h
  | _ => cases h

/-- Which figure it is decides what is left of the looks of its mesh. -/
theorem wearing_appearance (m material material' : MaterialHandle α) (f : Figure α) :
    (c.appearance material f).wearing m = (b.appearance material' f).wearing m := by
  cases f <;> rfl

variable [Angular α] {p q : Pass α}

theorem wearing_objectIn? (m material material' : MaterialHandle α) (h : p.Undressed q) :
    (c.objectIn? .remembering n material p).1.map (SceneObject.wearing m) =
        (b.objectIn? .remembering n material' q).1.map (SceneObject.wearing m) ∧
      (c.objectIn? .remembering n material p).2.Undressed
        (b.objectIn? .remembering n material' q).2 := by
  cases bears n with
  | nothing hg =>
      rw [objectIn?_none hg, objectIn?_none hg]
      exact ⟨rfl, h⟩
  | lit lamp hg on =>
      rw [objectIn?_lit hg on, objectIn?_lit hg on]
      exact ⟨rfl, h⟩
  | unlit lamp hg off =>
      rw [objectIn?_unlit hg off, objectIn?_unlit hg off]
      exact ⟨rfl, h.note _ _⟩
  | figure f hg =>
      obtain ⟨hanswer, hafter⟩ := Pass.Undressed.inStep.figure h n.id f
      have hp : Workshop.remembering.figure n.id f p =
          ((p.figure n.id f).1, (p.figure n.id f).2) := rfl
      have hq : Workshop.remembering.figure n.id f q =
          ((p.figure n.id f).1, (q.figure n.id f).2) := Prod.ext hanswer.symm rfl
      match hbuilt : (p.figure n.id f).1 with
      | none =>
          rw [hbuilt] at hp hq
          rw [objectIn?_stopped hg hp, objectIn?_stopped hg hq]
          exact ⟨rfl, hafter⟩
      | some (.error e) =>
          rw [hbuilt] at hp hq
          rw [objectIn?_error hg hp, objectIn?_error hg hq]
          exact ⟨rfl, hafter⟩
      | some (.ok placed) =>
          rw [hbuilt] at hp hq
          rw [objectIn?_ok hg hp, objectIn?_ok hg hq]
          refine ⟨?_, hafter.tellLooks (fun _ => isOfLooks_unknownTexture)
            (fun _ => isOfLooks_unknownTexture)⟩
          rw [Option.map_some, Option.map_some]
          simp only [SceneObject.wearing]
          rw [wearing_appearance (b := b) m material material' f]

theorem wearing_groupIn (m material material' : MaterialHandle α) (h : p.Undressed q) :
    (c.groupIn .remembering n material p).1.wearing m =
        (b.groupIn .remembering n material' q).1.wearing m ∧
      (c.groupIn .remembering n material p).2.Undressed
        (b.groupIn .remembering n material' q).2 := by
  have hbefore := h.tellLooks (fun _ => isOfLooks_unknownMaterial (c := c) (n := n))
    (fun _ => isOfLooks_unknownMaterial (c := b) (n := n))
  obtain ⟨hobject, hafter⟩ := wearing_objectIn? (c := c) (b := b) (n := n) m
    (c.effective n material) (b.effective n material') hbefore
  refine ⟨?_, hafter⟩
  have hobjects := congrArg Option.toList hobject
  rw [Option.toList_map, Option.toList_map] at hobjects
  exact congrArg (fun objects => Group.mk n.id (.ofSteps n.steps) m n.castShadows
    n.receiveShadows objects) hobjects

/-! ## Walks side by side -/

/-- Walks over the same nodes make the same trees apart from looks.  The induction is on the
first walk, and the second is taken along with whatever material has come down to it. -/
theorem wearing_belowIn (hnodes : b.nodes = c.nodes) (m : MaterialHandle α)
    (path : List String) (parent : String) (material material' : MaterialHandle α)
    (children : List String) (h : p.Undressed q) :
    Tree.mapAll (Group.wearing m) (c.belowIn .remembering path parent material children p).1 =
        Tree.mapAll (Group.wearing m)
          (b.belowIn .remembering path parent material' children q).1 ∧
      (c.belowIn .remembering path parent material children p).2.Undressed
        (b.belowIn .remembering path parent material' children q).2 := by
  induction path, parent, material, children, p using belowIn.induct c .remembering
    generalizing material' q with
  | case1 path parent material p =>
      rw [belowIn_nil, belowIn_nil]
      exact ⟨rfl, h⟩
  | case2 path parent material p id rest missing ih =>
      rw [belowIn_dangling missing, belowIn_dangling (hnodes ▸ missing)]
      exact ih material' (h.tell rfl)
  | case3 path parent material p id rest node found onPath ih =>
      have hmem := List.contains_iff_mem.mp onPath
      rw [belowIn_cyclic found hmem, belowIn_cyclic (hnodes ▸ found) hmem]
      exact ih material' (h.tell rfl)
  | case4 path parent material p id rest node found offPath top p₁ htop inner p₂ hinner
      others p₃ hothers ihBelow ihRest =>
      have hmem : id ∉ path := fun hmem => offPath (List.contains_iff_mem.mpr hmem)
      -- the group, what is below it and the rest, each from where the one before has ended
      obtain ⟨hlabel, h₁⟩ :=
        wearing_groupIn (c := c) (b := b) (n := node) m material material' h
      rw [htop] at hlabel h₁
      obtain ⟨hbelow, h₂⟩ := ihBelow (b.groupIn .remembering node material' q).1.material h₁
      rw [hinner] at hbelow h₂
      obtain ⟨hrest, h₃⟩ := ihRest material' h₂
      rw [hothers] at hrest h₃
      rw [belowIn_group found hmem htop hinner hothers,
        belowIn_group (hnodes ▸ found) hmem rfl rfl rfl,
        Tree.mapAll_cons, Tree.mapAll_cons, hlabel, hbelow, hrest]
      exact ⟨rfl, h₃⟩

/-- Two scenes of one root have the same structure: the trees are equal once every group and
mesh wears one material, the problems are equal apart from looks, and the same figures were
built.  The program stops in both or in neither. -/
theorem undressed_instantiateAfter (nodes : List (Node α)) (materials materials' : MaterialTable α)
    (textures textures' : TextureTable) (journal : Journal) (root : String)
    (default default' m : MaterialHandle α) :
    let shown := (⟨.ofList nodes, materials, textures⟩ : Catalog α).instantiateAfter journal root
      default
    let other := (⟨.ofList nodes, materials', textures'⟩ : Catalog α).instantiateAfter journal root
      default'
    Tree.mapAll (Group.wearing m) shown.1.trees = Tree.mapAll (Group.wearing m) other.1.trees ∧
      Diagnostic.apartFromLooks shown.1.problems = Diagnostic.apartFromLooks other.1.problems ∧
      shown.2.figures = other.2.figures ∧ shown.2.stopped = other.2.stopped := by
  intro shown other
  have h := NodeDictionary.consistent_ofList nodes
  obtain ⟨p, hshown, hproblems, hp⟩ :=
    showIn_remembering (c := ⟨.ofList nodes, materials, textures⟩) h journal root default
  obtain ⟨q, hother, hproblems', hq⟩ :=
    showIn_remembering (c := ⟨.ofList nodes, materials', textures'⟩) h journal root default'
  have hwalk := wearing_belowIn (c := ⟨.ofList nodes, materials, textures⟩)
    (b := ⟨.ofList nodes, materials', textures'⟩) rfl m [] rootParent default default' [root]
    (p := start journal) (q := start journal) ⟨rfl, rfl, rfl, rfl⟩
  unfold showIn at hshown hother
  rw [hshown, hother] at hwalk
  obtain ⟨htrees, hpass⟩ := hwalk
  refine ⟨htrees, ?_, ?_, ?_⟩
  · rw [hproblems, hproblems']
    exact hpass.problems
  · rw [hp, hq]
    exact hpass.figures
  · rw [hp, hq]
    exact hpass.stopped

end Catalog

end Scenery
