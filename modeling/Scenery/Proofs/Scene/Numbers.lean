import Scenery.Proofs.Scene.Workshop
import Scenery.Proofs.Tree

/-!
# Meshes and their numbers

A pass writes down the node of every figure it builds, and a mesh is known by its place among
them.  A pass writes no node down twice, since it remembers what has become of its figure
(`Pass.Numbered`).  So the number of a mesh tells which node it is of, in whatever group it is
(`Catalog.Shown.numbered`).

A walk that builds figures more often than a pass gives other numbers.  Nothing but the
numbers tells what it shows from what a pass shows, and `unnumbered` leaves them out.
-/

namespace Scenery

variable {α : Type}

/-! ## What a pass does with a figure -/

namespace Pass

variable [Angular α] {p : Pass α} {id : String} {f : Figure α}

/-- What is remembered of an id is given again, and the pass stays as it was. -/
theorem figure_of_some {built : Built α} (h : p.figures[id]? = some built) :
    p.figure id f = (some built, p) := by
  simp only [figure, h]

/-- A figure of which nothing is remembered is built. -/
theorem figure_of_none (h : p.figures[id]? = none) : p.figure id f = p.buildFigure id f := by
  simp only [figure, h]

/-- A build that gives nothing stops the pass, with nothing to remember. -/
theorem buildFigure_stopped (hb : f.build? = none) :
    p.buildFigure id f = (none, { p with stopped := true }) := by
  simp only [buildFigure, hb]

/-- A shape that is built takes the next number, is remembered and noted. -/
theorem buildFigure_ok {shape : Shape α} (hb : f.build? = some (.ok shape)) :
    p.buildFigure id f =
      (some (.ok (.ofShape p.builds.size shape)),
        (p.remember id (.ok (.ofShape p.builds.size shape))).note
          (.meshBuilt id f.tag shape.mesh.triangleCount)) := by
  simp only [buildFigure, hb]

/-- A failure is remembered and told, and counts as a build. -/
theorem buildFigure_error {e : GeometryError} (hb : f.build? = some (.error e)) :
    p.buildFigure id f =
      (some (.error e), (p.remember id (.error e)).tell (.geometry id e)) := by
  simp only [buildFigure, hb]

end Pass

/-! ## The nodes that a pass has written down -/

/-- A pass has written down the nodes whose figures it remembers, each once, and a mesh is known
by the place of its node. -/
structure Pass.Numbered (p : Pass α) : Prop where
  /-- No node is written down twice. -/
  nodup : p.builds.toList.Nodup
  /-- The nodes that are written down are those that are remembered. -/
  mem_iff : ∀ id, id ∈ p.builds ↔ (p.figures[id]?).isSome = true
  /-- The number of a mesh is the place of its node. -/
  slot : ∀ (id : String) (placed : PlacedMesh α), p.figures[id]? = some (.ok placed) →
    p.builds[placed.handle.slot]? = some id

/-- What a pass has written down, another has written down first. -/
def Pass.Extends (p q : Pass α) : Prop := p.builds.toList <+: q.builds.toList

namespace Pass.Extends

variable {p q r : Pass α}

theorem refl (p : Pass α) : p.Extends p := List.prefix_rfl

/-- One pass goes on from another by way of a third. -/
theorem trans (h : p.Extends q) (h' : q.Extends r) : p.Extends r := List.IsPrefix.trans h h'

/-- A node keeps its place. -/
theorem getElem? (h : p.Extends q) {slot : Nat} {id : String} (hp : p.builds[slot]? = some id) :
    q.builds[slot]? = some id := by
  rw [← Array.getElem?_toList] at hp ⊢
  obtain ⟨hlt, -⟩ := List.getElem?_eq_some_iff.mp hp
  rw [List.prefix_iff_getElem?.mp h slot hlt, ← hp, List.getElem?_eq_getElem hlt]

end Pass.Extends

namespace Pass.Numbered

variable {p : Pass α} {id : String}

/-- A pass that starts has built nothing. -/
theorem start (journal : Journal) : (Catalog.start journal : Pass α).Numbered where
  nodup := List.nodup_nil
  mem_iff id := by simp [Catalog.start, Pass.fresh]
  slot id placed h := by simp [Catalog.start, Pass.fresh] at h

theorem tell (h : p.Numbered) (d : Diagnostic) : (p.tell d).Numbered := ⟨h.nodup, h.mem_iff, h.slot⟩

theorem note (h : p.Numbered) (n : Note) : (p.note n).Numbered := ⟨h.nodup, h.mem_iff, h.slot⟩

/-- What is built next is written down under the next number. -/
theorem remember (h : p.Numbered) (hnew : p.figures[id]? = none) {built : Built α}
    (hslot : ∀ placed, built = .ok placed → placed.handle.slot = p.builds.size) :
    (p.remember id built).Numbered where
  nodup := by
    have hid : id ∉ p.builds.toList := by
      rw [Array.mem_toList_iff, h.mem_iff, hnew]
      exact Bool.false_ne_true
    simp only [Pass.remember, Array.toList_push, ← List.concat_eq_append]
    exact h.nodup.concat hid
  mem_iff other := by
    rw [Pass.remember, Array.mem_push, h.mem_iff, Std.HashMap.getElem?_insert]
    by_cases he : id = other
    · simp [he]
    · simp [he, Ne.symm he]
  slot other placed hplaced := by
    simp only [Pass.remember, Std.HashMap.getElem?_insert] at hplaced ⊢
    split at hplaced
    next he =>
      obtain rfl : id = other := beq_iff_eq.mp he
      rw [hslot placed (Option.some.inj hplaced), Array.getElem?_push_size]
    next =>
      have hplace := h.slot other placed hplaced
      obtain ⟨hlt, -⟩ := Array.getElem?_eq_some_iff.mp hplace
      rw [Array.getElem?_push, if_neg (Nat.ne_of_lt hlt)]
      exact hplace

/-- A node has one place. -/
theorem place_unique (h : p.Numbered) {i j : Nat} (hi : p.builds[i]? = some id)
    (hj : p.builds[j]? = some id) : i = j := by
  rw [← Array.getElem?_toList] at hi hj
  obtain ⟨hlt, -⟩ := List.getElem?_eq_some_iff.mp hi
  exact (List.getElem?_inj hlt h.nodup).mp (hi.trans hj.symm)

variable [Angular α]

/-- A figure that is asked for is written down if it was not, and its mesh has the number of its
node. -/
theorem figure (h : p.Numbered) (id : String) (f : Figure α) :
    (p.figure id f).2.Numbered ∧ p.Extends (p.figure id f).2 ∧
      ∀ placed, (p.figure id f).1 = some (.ok placed) →
        (p.figure id f).2.builds[placed.handle.slot]? = some id := by
  cases hp : p.figures[id]? with
  | some built =>
      rw [figure_of_some hp]
      exact ⟨h, .refl p, fun placed hplaced => h.slot id placed (hp.trans hplaced)⟩
  | none =>
      have hextends : ∀ built, p.Extends (p.remember id built) := fun built => by
        simp only [Extends, Pass.remember, Array.toList_push]
        exact List.prefix_append ..
      rw [figure_of_none hp]
      match hb : f.build? with
      | none =>
          rw [buildFigure_stopped hb]
          exact ⟨⟨h.nodup, h.mem_iff, h.slot⟩, .refl p, fun _ hplaced => by cases hplaced⟩
      | some (.error e) =>
          rw [buildFigure_error hb]
          refine ⟨(h.remember hp ?_).tell _, hextends (.error e), ?_⟩
          · rintro placed hplaced
            cases hplaced
          · rintro placed hplaced
            cases hplaced
      | some (.ok shape) =>
          rw [buildFigure_ok hb]
          refine ⟨(h.remember hp ?_).note _, hextends (.ok (.ofShape p.builds.size shape)), ?_⟩
          · rintro placed hplaced
            cases hplaced
            rfl
          · rintro placed hplaced
            cases hplaced
            exact Array.getElem?_push_size

end Pass.Numbered

/-! ## The meshes of groups -/

/-- The meshes of a group have the number of its node. -/
def Pass.Knows (p : Pass α) (g : Group α) : Prop :=
  ∀ i ∈ g.meshes, p.builds[i.handle.slot]? = some g.id

theorem Pass.Extends.knows {p q : Pass α} (h : p.Extends q) {g : Group α} (hg : p.Knows g) :
    q.Knows g := fun i hi => h.getElem? (hg i hi)

/-- What is told of a node changes no number. -/
theorem Pass.Numbered.tell_elim {p : Pass α} (h : p.Numbered) (problem? : Option Diagnostic) :
    (problem?.elim p p.tell).Numbered ∧ p.Extends (problem?.elim p p.tell) := by
  cases problem? with
  | none => exact ⟨h, .refl p⟩
  | some d => exact ⟨h.tell d, .refl p⟩

namespace Catalog

variable [Angular α] {c : Catalog α} {p q : Pass α}

/-- An object keeps the builds in order, and its mesh has the number of its node. -/
theorem numbered_object? (h : p.Numbered) (node : Node α) (material : MaterialHandle α) :
    (c.object? node material p).2.Numbered ∧ p.Extends (c.object? node material p).2 ∧
      ∀ i, (c.object? node material p).1 = some (.mesh i) →
        (c.object? node material p).2.builds[i.handle.slot]? = some node.id := by
  change (c.objectIn? .remembering node material p).2.Numbered ∧
    p.Extends (c.objectIn? .remembering node material p).2 ∧
      ∀ i : MeshInstance α, (c.objectIn? .remembering node material p).1 = some (.mesh i) →
        (c.objectIn? .remembering node material p).2.builds[i.handle.slot]? = some node.id
  cases bears node with
  | nothing hg =>
      rw [objectIn?_none hg]
      exact ⟨h, .refl p, fun _ hmesh => by cases hmesh⟩
  | lit lamp hg on =>
      rw [objectIn?_lit hg on]
      exact ⟨h, .refl p, fun _ hmesh => by cases hmesh⟩
  | unlit lamp hg off =>
      rw [objectIn?_unlit hg off]
      exact ⟨h.note _, .refl p, fun _ hmesh => by cases hmesh⟩
  | figure f hg =>
      obtain ⟨hnumbered, hextends, hslot⟩ := h.figure node.id f
      generalize hbuilt : p.figure node.id f = made at hnumbered hextends hslot
      obtain ⟨built, q⟩ := made
      match built with
      | none =>
          rw [objectIn?_stopped hg hbuilt]
          exact ⟨hnumbered, hextends, fun _ hmesh => by cases hmesh⟩
      | some (.error e) =>
          rw [objectIn?_error hg hbuilt]
          exact ⟨hnumbered, hextends, fun _ hmesh => by cases hmesh⟩
      | some (.ok placed) =>
          obtain ⟨htold, hlater⟩ := hnumbered.tell_elim (c.unknownTexture? node.id f)
          rw [objectIn?_ok hg hbuilt]
          refine ⟨htold, hextends.trans hlater, ?_⟩
          rintro i hi
          cases hi
          exact hlater.getElem? (hslot placed rfl)

/-- A group keeps the builds in order, and its meshes are known by their numbers. -/
theorem numbered_group (h : p.Numbered) (node : Node α) (material : MaterialHandle α) :
    (c.group node material p).2.Numbered ∧ p.Extends (c.group node material p).2 ∧
      (c.group node material p).2.Knows (c.group node material p).1 := by
  obtain ⟨htold, hbefore⟩ := h.tell_elim (c.unknownMaterial? node)
  obtain ⟨hnumbered, hextends, hslot⟩ :=
    numbered_object? htold node (c.effective node material)
  refine ⟨hnumbered, hbefore.trans hextends, fun i hi => hslot i ?_⟩
  obtain ⟨object, hobject, hmesh⟩ := List.mem_filterMap.mp hi
  cases object with
  | light l => cases hmesh
  | mesh j =>
      cases hmesh
      exact Option.mem_toList.mp hobject

/-- A walk goes on numbering, and its groups have meshes with the numbers of their nodes. -/
theorem Shown.numbered {path children : List String} {parent : String}
    {trees : List (Tree (Group α))} (hs : Shown c path parent material children p trees q)
    (h : p.Numbered) :
    q.Numbered ∧ p.Extends q ∧ ∀ g ∈ Tree.labels trees, q.Knows g := by
  induction hs with
  | nil =>
      rw [Tree.labels_nil]
      exact ⟨h, .refl _, List.forall_mem_nil _⟩
  | dangling _ _ ih => exact ih (h.tell _)
  | cyclic _ _ _ ih => exact ih (h.tell _)
  | @group path _ id material ids p q r inner others node _ _ _ _ ihBelow ihRest =>
      obtain ⟨hgroup, hfirst, hknows⟩ := numbered_group (c := c) h node material
      obtain ⟨hbelow, hsecond, hinner⟩ := ihBelow hgroup
      obtain ⟨hrest, hthird, hothers⟩ := ihRest hbelow
      refine ⟨hrest, hfirst.trans (hsecond.trans hthird), fun g hg => ?_⟩
      rw [Tree.labels_cons, List.mem_cons, List.mem_append] at hg
      rcases hg with rfl | hg | hg
      · exact (hsecond.trans hthird).knows hknows
      · exact hthird.knows (hinner g hg)
      · exact hothers g hg

end Catalog

/-! ## Leaving the numbers out -/

/-- A mesh without its number. -/
def PlacedMesh.unnumbered (m : PlacedMesh α) : PlacedMesh α := .ofShape 0 m.shape

/-- What was built, without its number. -/
def Built.unnumbered (built : Built α) : Built α := built.map PlacedMesh.unnumbered

/-- What is in a group, without the numbers of meshes. -/
def SceneObject.unnumbered : SceneObject α → SceneObject α
  | .mesh i => .mesh { i with handle := ⟨0, i.mesh⟩ }
  | .light l => .light l

/-- A group without the numbers of its meshes. -/
def Group.unnumbered (g : Group α) : Group α :=
  { g with objects := g.objects.map SceneObject.unnumbered }

/-- A workshop whose meshes have no numbers. -/
def Workshop.unnumbered {σ : Type} (w : Workshop α σ) : Workshop α σ :=
  { w with figure id f s := ((w.figure id f s).1.map Built.unnumbered, (w.figure id f s).2) }

namespace Catalog

variable [Angular α] {σ : Type} {c : Catalog α} {w : Workshop α σ}

/-- A workshop that gives no numbers makes the same object without one, and the same state. -/
theorem objectIn?_unnumbered (node : Node α) (material : MaterialHandle α) (s : σ) :
    c.objectIn? w.unnumbered node material s =
      ((c.objectIn? w node material s).1.map SceneObject.unnumbered,
        (c.objectIn? w node material s).2) := by
  cases bears node with
  | nothing hg =>
      rw [objectIn?_none hg, objectIn?_none hg]
      rfl
  | lit lamp hg on =>
      rw [objectIn?_lit hg on, objectIn?_lit hg on]
      rfl
  | unlit lamp hg off =>
      rw [objectIn?_unlit hg off, objectIn?_unlit hg off]
      rfl
  | figure f hg =>
      generalize hw : w.figure node.id f s = made
      obtain ⟨built, t⟩ := made
      have hunnumbered : w.unnumbered.figure node.id f s = (built.map Built.unnumbered, t) := by
        simp only [Workshop.unnumbered, hw]
      match built with
      | none =>
          rw [objectIn?_stopped hg hw, objectIn?_stopped hg hunnumbered]
          rfl
      | some (.error e) =>
          rw [objectIn?_error hg hw, objectIn?_error hg hunnumbered]
          rfl
      | some (.ok placed) =>
          rw [objectIn?_ok hg hw, objectIn?_ok hg hunnumbered]
          rfl

/-- A workshop that gives no numbers makes the same group without any, and the same state. -/
theorem groupIn_unnumbered (node : Node α) (material : MaterialHandle α) (s : σ) :
    c.groupIn w.unnumbered node material s =
      ((c.groupIn w node material s).1.unnumbered, (c.groupIn w node material s).2) := by
  unfold groupIn
  simp only [objectIn?_unnumbered, Option.toList_map]
  rfl

/-- A walk with meshes that have no numbers makes the same trees without numbers. -/
theorem belowIn_unnumbered (path : List String) (parent : String) (material : MaterialHandle α)
    (children : List String) (s : σ) :
    c.belowIn w.unnumbered path parent material children s =
      (Tree.mapAll Group.unnumbered (c.belowIn w path parent material children s).1,
        (c.belowIn w path parent material children s).2) := by
  induction path, parent, material, children, s using belowIn.induct c w with
  | case1 path parent material s => rw [belowIn_nil, belowIn_nil, Tree.mapAll_nil]
  | case2 path parent material s id rest missing ih =>
      rw [belowIn_dangling missing, belowIn_dangling missing]
      exact ih
  | case3 path parent material s id rest node found onPath ih =>
      have hmem := List.contains_iff_mem.mp onPath
      rw [belowIn_cyclic found hmem, belowIn_cyclic found hmem]
      exact ih
  | case4 path parent material s id rest node found offPath top s₁ htop inner s₂ hinner
      others s₃ hothers ihBelow ihRest =>
      have hmem : id ∉ path := fun hmem => offPath (List.contains_iff_mem.mpr hmem)
      have hgroup := groupIn_unnumbered (c := c) (w := w) node material s
      rw [htop] at hgroup
      rw [hinner] at ihBelow
      rw [hothers] at ihRest
      rw [belowIn_group found hmem htop hinner hothers,
        belowIn_group found hmem hgroup ihBelow ihRest, Tree.mapAll_cons]

end Catalog

end Scenery
