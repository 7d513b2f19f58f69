import Scenery.Proofs.Scene.Numbers

/-!
# What a pass remembers

A pass builds the figure of a node when it is asked for first, and remembers it, be it
built or not.  Nobody can tell but by the numbers of meshes: the scene is otherwise the one of
a pass that looks nothing up and builds the figure of a node anew for each of its groups
(`Catalog.Thrifty`).

*Side by side.*  `Recalls` is what keeps the two in step.  Whatever is remembered under an
id is what the figure of that id is built to, and a figure that could not be built has been
told of.  So asking again would only tell the same problem again, which changes nothing.

*Once.*  Both passes write down each node whose figure they build.  The one that remembers
writes no node down twice (`Pass.Numbered`), so it has a mesh for a node at most, and two groups
share a mesh if they are of one node, and only then.

*The end.*  Both come to the same end as well: the program stops if a group is of a node whose
figure stops it (`Catalog.stopped_instantiateAfter`).
-/

namespace Scenery

variable {α : Type} [Angular α]

/-! ## Passes in step -/

namespace Pass

/-- A way for two passes to be in step: they remember the same, and stay in step when both
remember a figure, tell that one cannot be built, make a note, or stop. -/
structure InStep (R : Pass α → Pass α → Prop) : Prop where
  figures : ∀ {p q}, R p q → p.figures = q.figures
  builds : ∀ {p q}, R p q → p.builds = q.builds
  remember : ∀ {p q}, R p q → ∀ id built, R (p.remember id built) (q.remember id built)
  tell : ∀ {p q}, R p q → ∀ id e, R (p.tell (.geometry id e)) (q.tell (.geometry id e))
  note : ∀ {p q}, R p q → ∀ n, R (p.note n) (q.note n)
  stop : ∀ {p q}, R p q → R { p with stopped := true } { q with stopped := true }

/-- Passes in step answer alike and stay in step. -/
theorem InStep.figure {R : Pass α → Pass α → Prop} (hR : InStep R) {p q : Pass α} (h : R p q)
    (id : String) (f : Figure α) :
    (p.figure id f).1 = (q.figure id f).1 ∧ R (p.figure id f).2 (q.figure id f).2 := by
  cases hq : q.figures[id]? with
  | some built =>
      rw [figure_of_some hq, figure_of_some (hR.figures h ▸ hq)]
      exact ⟨rfl, h⟩
  | none =>
      rw [figure_of_none hq, figure_of_none (hR.figures h ▸ hq)]
      match hb : f.build? with
      | none =>
          rw [buildFigure_stopped hb, buildFigure_stopped hb]
          exact ⟨rfl, hR.stop h⟩
      | some (.ok shape) =>
          rw [buildFigure_ok hb, buildFigure_ok hb, hR.builds h]
          exact ⟨rfl, hR.note (hR.remember h id _) _⟩
      | some (.error e) =>
          rw [buildFigure_error hb, buildFigure_error hb]
          exact ⟨rfl, hR.tell (hR.remember h id _) id e⟩

end Pass

/-! ## A pass that looks nothing up -/

/-- The workshop of a pass that builds a figure each time it is asked for. -/
def Workshop.forgetful : Workshop α (Pass α) :=
  { Workshop.remembering with figure id f p := p.buildFigure id f }

/-- A pass remembers what building anew comes to, and has told what a pass that builds anew has
told. -/
structure Recalls (d : NodeDictionary α) (p q : Pass α) : Prop where
  /-- The same problems were told. -/
  problems : p.journal.problems = q.journal.problems
  /-- The program has stopped in both or in neither. -/
  stopped : p.stopped = q.stopped
  /-- What is remembered is what the figure is built to. -/
  built : ∀ {id : String} {f : Figure α} {built : Built α}, d.Carries id f →
    p.figures[id]? = some built → f.build? = some (built.map PlacedMesh.shape)
  /-- A figure that cannot be built was told of. -/
  told : ∀ {id : String} {e : GeometryError}, p.figures[id]? = some (.error e) →
    .geometry id e ∈ p.journal.problems

namespace Recalls

variable {d : NodeDictionary α} {p q r : Pass α} {id : String} {f : Figure α}

/-- Two passes that start with the same journal recall the same. -/
theorem start (journal : Journal) :
    Recalls d (Catalog.start journal : Pass α) (Catalog.start journal) where
  problems := rfl
  stopped := rfl
  built := by intro id f built _ h; simp [Catalog.start, Pass.fresh] at h
  told := by intro id e h; simp [Catalog.start, Pass.fresh] at h

/-- Telling both of a problem keeps what is recalled. -/
theorem tell (h : Recalls d p q) (problem : Diagnostic) :
    Recalls d (p.tell problem) (q.tell problem) where
  problems := by simp only [Pass.tell, Journal.problems_addOnce, h.problems]
  stopped := h.stopped
  built := h.built
  told := fun he => Journal.mem_problems_addOnce.mpr (Or.inl (h.told he))

/-- Notes are not compared. -/
theorem note (h : Recalls d p q) (n m : Note) : Recalls d (p.note n) (q.note m) where
  problems := by simp only [Pass.note, Journal.problems_note, h.problems]
  stopped := h.stopped
  built := h.built
  told := by
    intro id e he
    simp only [Pass.note, Journal.problems_note]
    exact h.told he

/-- Both stop together. -/
theorem stop (h : Recalls d p q) :
    Recalls d { p with stopped := true } { q with stopped := true } where
  problems := h.problems
  stopped := rfl
  built := h.built
  told := h.told

/-- What was built just now can be remembered. -/
theorem remember (h : Recalls d p q) (carried : d.Carries id f) (built : Built α)
    (hbuilt : f.build? = some (built.map PlacedMesh.shape))
    (told : ∀ e, built = .error e → .geometry id e ∈ p.journal.problems) :
    Recalls d (p.remember id built) q where
  problems := h.problems
  stopped := h.stopped
  built := by
    intro other g held hg hheld
    rw [Pass.remember, Std.HashMap.getElem?_insert] at hheld
    split at hheld
    next he =>
      obtain rfl : id = other := beq_iff_eq.mp he
      obtain rfl : g = f := hg.unique carried
      obtain rfl := Option.some.inj hheld
      exact hbuilt
    next => exact h.built hg hheld
  told := by
    intro other e he
    rw [Pass.remember, Std.HashMap.getElem?_insert] at he
    split at he
    next heq =>
      obtain rfl : id = other := beq_iff_eq.mp heq
      exact told e (Option.some.inj he)
    next => exact h.told he

/-- A pass that has told the same problems and has stopped no sooner is as good. -/
theorem of_alike (h : Recalls d p q) (hproblems : r.journal.problems = q.journal.problems)
    (hstopped : r.stopped = q.stopped) : Recalls d p r where
  problems := h.problems.trans hproblems.symm
  stopped := h.stopped.trans hstopped.symm
  built := h.built
  told := h.told

/-- Asking for a figure comes to the same, whether it is remembered or not. -/
theorem figure (h : Recalls d p q) (carried : d.Carries id f) :
    (p.figure id f).1.map Built.unnumbered = (q.buildFigure id f).1.map Built.unnumbered ∧
      Recalls d (p.figure id f).2 (q.buildFigure id f).2 := by
  cases hp : p.figures[id]? with
  | some built =>
      have hbuilt := h.built carried hp
      rw [Pass.figure_of_some hp]
      cases built with
      | ok placed =>
          rw [Pass.buildFigure_ok hbuilt]
          exact ⟨rfl, h.of_alike (Journal.problems_note ..) rfl⟩
      | error e =>
          -- the problem was told when the figure was asked for first
          have htold : .geometry id e ∈ q.journal.problems := h.problems ▸ h.told hp
          rw [Pass.buildFigure_error hbuilt]
          refine ⟨rfl, h.of_alike ?_ rfl⟩
          exact (Journal.problems_addOnce ..).trans (if_pos htold)
  | none =>
      rw [Pass.figure_of_none hp]
      match hb : f.build? with
      | none =>
          rw [Pass.buildFigure_stopped hb, Pass.buildFigure_stopped hb]
          exact ⟨rfl, h.stop⟩
      | some (.ok shape) =>
          rw [Pass.buildFigure_ok hb, Pass.buildFigure_ok hb]
          have hkept : Recalls d (p.remember id (.ok (.ofShape p.builds.size shape)))
              (q.remember id (.ok (.ofShape q.builds.size shape))) :=
            (h.remember carried (.ok (.ofShape p.builds.size shape)) hb
              fun _ he => by cases he).of_alike rfl rfl
          exact ⟨rfl, hkept.note _ _⟩
      | some (.error e) =>
          rw [Pass.buildFigure_error hb, Pass.buildFigure_error hb]
          refine ⟨rfl, ((h.tell (.geometry id e)).remember carried (.error e) hb ?_).of_alike
            rfl rfl⟩
          intro other hother
          cases hother
          exact Journal.mem_problems_addOnce.mpr (Or.inr rfl)

end Recalls

/-- A pass goes along with one that looks nothing up, but for the numbers of meshes. -/
theorem Workshop.remembering_follows_forgetful (d : NodeDictionary α) :
    Workshop.remembering.unnumbered.Follows d Workshop.forgetful.unnumbered (Recalls d) where
  answer carried h := (h.figure carried).1
  figure carried h := (h.figure carried).2
  tell h := h.tell _
  note h := h.note _ _

/-! ## Whole scenes -/

namespace Catalog

/-- What a pass remembers makes no difference but saves work: the scene is that of a
pass that looks nothing up, and no figure is built twice. -/
structure Thrifty (c : Catalog α) (journal : Journal) (root : String)
    (material : MaterialHandle α) : Prop where
  /-- The trees are those of a pass that builds each figure anew for each group, but for the
  numbers of their meshes. -/
  trees : Tree.mapAll Group.unnumbered (c.instantiateAfter journal root material).1.trees =
    Tree.mapAll Group.unnumbered (c.showIn .forgetful root material (start journal)).1
  /-- It tells the same problems in the same order. -/
  problems : (c.instantiateAfter journal root material).1.problems =
    (c.showIn .forgetful root material (start journal)).2.journal.problems
  /-- The program stops in one if it stops in the other. -/
  stopped : (c.instantiateAfter journal root material).2.stopped =
    (c.showIn .forgetful root material (start journal)).2.stopped
  /-- No figure is built twice, be it built or not. -/
  once : (c.instantiateAfter journal root material).2.builds.toList.Nodup
  /-- What was built is what is remembered in the end. -/
  remembered : ∀ id, id ∈ (c.instantiateAfter journal root material).2.builds ↔
    ((c.instantiateAfter journal root material).2.figures[id]?).isSome = true
  /-- Two groups share a mesh if they are of one node, and only then. -/
  shared : ∀ g ∈ (c.instantiateAfter journal root material).1.groups,
    ∀ h ∈ (c.instantiateAfter journal root material).1.groups, ∀ i ∈ g.meshes, ∀ j ∈ h.meshes,
      i.handle.sameAs j.handle = true ↔ g.id = h.id

/-- Over a consistent dictionary a call builds no node's figure twice, and comes to what building
anew comes to. -/
theorem thrifty_of_consistent {c : Catalog α} (h : c.nodes.Consistent) (journal : Journal)
    (root : String) (material : MaterialHandle α) : c.Thrifty journal root material := by
  obtain ⟨q, hshown, hproblems, hpass⟩ := shown_instantiateAfter h journal root material
  have hwalk := belowIn_of_shown hshown
  obtain ⟨trees, p, r, hp, hr, hrecalls⟩ :=
    (Workshop.remembering_follows_forgetful c.nodes).exists_scene h (.start journal) root material
  rw [showIn, belowIn_unnumbered, hwalk] at hp
  rw [showIn, belowIn_unnumbered] at hr
  obtain ⟨htrees, rfl⟩ := Prod.mk.inj hp
  obtain ⟨hforgetful, rfl⟩ := Prod.mk.inj hr
  obtain ⟨hnumbered, -, hknows⟩ := hshown.numbered (.start journal)
  constructor
  case trees => rw [htrees, showIn, hforgetful]
  case problems => rw [hproblems, showIn, hrecalls.problems]
  case stopped => rw [hpass, showIn, hrecalls.stopped]
  case once =>
    rw [hpass]
    exact hnumbered.nodup
  case remembered =>
    rw [hpass]
    exact hnumbered.mem_iff
  case shared =>
    intro g hg k hk i hi j hj
    have hgroup := hknows g hg i hi
    have hother := hknows k hk j hj
    rw [MeshHandle.sameAs, beq_iff_eq]
    constructor
    · intro hslot
      rw [hslot, hother] at hgroup
      exact (Option.some.inj hgroup).symm
    · intro hid
      rw [hid] at hgroup
      exact hnumbered.place_unique hgroup hother

/-- Whatever nodes, materials and textures there are, and whatever came up before, it makes
no difference that figures are remembered, and each is built at most once. -/
theorem thrifty_instantiateAfter (nodes : List (Node α)) (materials : MaterialTable α)
    (textures : TextureTable) (journal : Journal) (root : String)
    (material : MaterialHandle α) :
    (⟨.ofList nodes, materials, textures⟩ : Catalog α).Thrifty journal root material :=
  thrifty_of_consistent (NodeDictionary.consistent_ofList nodes) journal root material

/-! ## Where the program stops -/

section Stop

variable {c : Catalog α}

/-- The program stops where the figure of a node is built. -/
def Stops (c : Catalog α) (id : String) : Prop := ∃ f, c.nodes.Carries id f ∧ f.build? = none

/-- Telling a problem, if there is one, stops nothing. -/
theorem stopped_elim (p : Pass α) (problem? : Option Diagnostic) :
    (problem?.elim p fun d => Workshop.forgetful.tell d p).stopped = p.stopped := by
  cases problem? <;> rfl

/-- Building an object stops the program if its figure does, or if it had stopped before. -/
theorem stopped_objectIn? {id : String} {node : Node α} (found : c.nodes.get? id = some node)
    (material : MaterialHandle α) (p : Pass α) :
    (c.objectIn? .forgetful node material p).2.stopped = true ↔
      p.stopped = true ∨ c.Stops id := by
  have hstops : c.Stops id ↔ ∃ f, node.geometry = some (.figure f) ∧ f.build? = none := by
    simp only [Stops, NodeDictionary.Carries, found, Option.some.injEq, exists_eq_left']
  rw [hstops]
  cases bears node with
  | nothing hg => simp [objectIn?_none hg, hg]
  | lit lamp hg on => simp [objectIn?_lit hg on, hg]
  | unlit lamp hg off =>
      simp [objectIn?_unlit hg off, hg, Workshop.forgetful, Workshop.remembering, Pass.note]
  | figure f hg =>
      have hw : Workshop.forgetful.figure node.id f p = p.buildFigure node.id f := rfl
      match hb : f.build? with
      | none =>
          rw [objectIn?_stopped hg (hw.trans (Pass.buildFigure_stopped hb))]
          simp [hg, hb]
      | some (.error e) =>
          rw [objectIn?_error hg (hw.trans (Pass.buildFigure_error hb))]
          simp [hg, hb, Pass.tell, Pass.remember]
      | some (.ok shape) =>
          rw [objectIn?_ok hg (hw.trans (Pass.buildFigure_ok hb))]
          simp [stopped_elim, hg, hb, Pass.note, Pass.remember]

/-- Building a group stops the program if its node's figure does, or if it had stopped before. -/
theorem stopped_groupIn {id : String} {node : Node α} (found : c.nodes.get? id = some node)
    (material : MaterialHandle α) (p : Pass α) :
    (c.groupIn .forgetful node material p).2.stopped = true ↔
      p.stopped = true ∨ c.Stops id := by
  refine (stopped_objectIn? found (c.effective node material) _).trans ?_
  rw [stopped_elim]

/-- A pass that looks nothing up stops at the figures of its groups. -/
theorem stopped_belowIn (hc : c.nodes.Consistent) (path : List String) (parent : String)
    (material : MaterialHandle α) (children : List String) (p : Pass α) :
    (c.belowIn .forgetful path parent material children p).2.stopped = true ↔
      p.stopped = true ∨
        ∃ g ∈ Tree.labels (c.belowIn .forgetful path parent material children p).1,
          c.Stops g.id := by
  induction path, parent, material, children, p using belowIn.induct c .forgetful with
  | case1 path parent material p => simp [belowIn_nil, Tree.labels_nil]
  | case2 path parent material p id rest missing ih =>
      rw [belowIn_dangling missing]
      exact ih
  | case3 path parent material p id rest node found onPath ih =>
      rw [belowIn_cyclic found (List.contains_iff_mem.mp onPath)]
      exact ih
  | case4 path parent material p id rest node found offPath top p₁ htop inner p₂ hinner
      others p₃ hothers ihBelow ihRest =>
      have hoff : id ∉ path := fun hmem => offPath (List.contains_iff_mem.mpr hmem)
      have htopId : top.id = id := by
        rw [← (hc.get?_eq_some_iff.mp found).2, ← congrArg (fun made => made.1.id) htop]
        rfl
      have hgroup : p₁.stopped = true ↔ p.stopped = true ∨ c.Stops top.id := by
        rw [htopId, ← stopped_groupIn found material p, htop]
      rw [hinner] at ihBelow
      rw [hothers] at ihRest
      rw [belowIn_group found hoff htop hinner hothers, Tree.labels_cons, ihRest, ihBelow, hgroup]
      simp only [List.mem_cons, List.mem_append, or_and_right, exists_or, exists_eq_left, or_assoc]

/-- The program stops while a scene is shown if one of its groups is of a node whose figure stops
it, and only then. -/
theorem stopped_instantiateAfter (h : c.nodes.Consistent) (journal : Journal) (root : String)
    (material : MaterialHandle α) :
    (c.instantiateAfter journal root material).2.stopped = true ↔
      ∃ g ∈ (c.instantiateAfter journal root material).1.groups, c.Stops g.id := by
  have hthrifty := thrifty_of_consistent h journal root material
  -- whose groups they are can be told without the numbers of meshes
  have hgroups : ∀ trees : List (Tree (Group α)), (∃ g ∈ Tree.labels trees, c.Stops g.id) ↔
      ∃ g ∈ Tree.labels (Tree.mapAll Group.unnumbered trees), c.Stops g.id := by
    intro trees
    simp only [Tree.labels_mapAll, List.mem_map, exists_exists_and_eq_and, Group.unnumbered]
  rw [hthrifty.stopped, showIn, stopped_belowIn h, hgroups, Scene.groups,
    hgroups (c.instantiateAfter journal root material).1.trees, hthrifty.trees]
  exact or_iff_right Bool.false_ne_true

/-- A root has the scene that the walk shows, unless the program stops. -/
theorem instantiate?_eq (c : Catalog α) (root : String) (material : MaterialHandle α) :
    c.instantiate? root material =
      if (c.instantiateAfter .empty root material).2.stopped then none
      else some (c.instantiate root material) := by
  unfold instantiate? Pass.answer? instantiate
  split <;> rfl

/-- There is no scene if the program stops at one of its groups, and only then. -/
theorem instantiate?_eq_none_iff (h : c.nodes.Consistent) {root : String}
    {material : MaterialHandle α} :
    c.instantiate? root material = none ↔
      ∃ g ∈ (c.instantiate root material).groups, c.Stops g.id := by
  rw [instantiate?_eq, instantiate, ← stopped_instantiateAfter h .empty root material]
  split
  next hstopped => exact iff_of_true rfl hstopped
  next hstopped => exact iff_of_false nofun hstopped

/-- If there is one, it is the scene that the walk shows. -/
theorem instantiate_of_instantiate? {root : String} {material : MaterialHandle α}
    {scene : Scene α} (h : c.instantiate? root material = some scene) :
    c.instantiate root material = scene := by
  rw [instantiate?_eq] at h
  split at h
  next => cases h
  next => exact Option.some.inj h

end Stop

end Catalog

end Scenery
