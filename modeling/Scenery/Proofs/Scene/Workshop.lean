import Scenery.Proofs.Scene.Shown

/-!
# Walks and where they have their figures from

A pass remembers the figures it has built.  What a walk does apart from that is the
same for any other way to come by figures, so here the walk is taken with a
`Workshop`: a state, and what becomes of it when a figure is asked for, a problem is
told or a note is made.  The walk of a pass is the walk with the workshop that
remembers (`belowIn_of_shown`).

Two workshops can be followed side by side.  If they answer alike as long as their
states are in step, and keep them in step, then a walk makes the same trees with
both of them (`Workshop.Follows.exists_below`).  They only have to answer alike on the
figures that nodes carry.  This is what lets a pass look a figure up by the id of its
node: the dictionary has one figure for an id.
-/

namespace Scenery

/-- The figures for a walk, and what is done with what comes up. -/
structure Workshop (α σ : Type) where
  /-- The figure of a node. -/
  figure : String → Figure α → σ → Option (Built α) × σ
  /-- Tell a problem. -/
  tell : Diagnostic → σ → σ
  /-- Make a note. -/
  note : Note → σ → σ

/-- The workshop of a pass. -/
def Workshop.remembering {α : Type} [Angular α] : Workshop α (Pass α) where
  figure id figure p := p.figure id figure
  tell d p := p.tell d
  note n p := p.note n

namespace Catalog

variable {α σ τ : Type} [Angular α] {c : Catalog α} {w : Workshop α σ} {v : Workshop α τ}

/-! ## The walk with a workshop -/

/-- What a node carries, in a group of a material. -/
def objectIn? (c : Catalog α) (w : Workshop α σ) (node : Node α) (material : MaterialHandle α)
    (s : σ) : Option (SceneObject α) × σ :=
  match node.geometry with
  | none => (none, s)
  | some (.lamp lamp) =>
      if lamp.enabled then (some (.light lamp.light), s)
      else (none, w.note (.lampOff node.id lamp.tag) s)
  | some (.figure figure) =>
      let (built, s) := w.figure node.id figure s
      match built with
      | none | some (.error _) => (none, s)
      | some (.ok placed) =>
          (some (.mesh
            { handle := placed.handle
              material := c.appearance material figure
              position := placed.offset
              castShadows := node.castShadows
              receiveShadows := node.receiveShadows }),
            (c.unknownTexture? node.id figure).elim s fun d => w.tell d s)

/-- The group of a node to which a material comes down. -/
def groupIn (c : Catalog α) (w : Workshop α σ) (node : Node α) (inherited : MaterialHandle α)
    (s : σ) : Group α × σ :=
  let material := c.effective node inherited
  let (object, s) :=
    c.objectIn? w node material ((c.unknownMaterial? node).elim s fun d => w.tell d s)
  ({ id := node.id
     transform := .ofSteps node.steps
     material := material
     castShadows := node.castShadows
     receiveShadows := node.receiveShadows
     objects := object.toList }, s)

/-- The trees of the children of a node.  `path` holds the ids from that node up to
the root. -/
def belowIn (c : Catalog α) (w : Workshop α σ) (path : List String) (parent : String)
    (material : MaterialHandle α) (children : List String) (s : σ) :
    List (Tree (Group α)) × σ :=
  match children with
  | [] => ([], s)
  | id :: rest =>
      match _ : c.nodes.get? id with
      | none => belowIn c w path parent material rest (w.tell (.danglingChild parent id) s)
      | some node =>
          if _ : path.contains id then
            belowIn c w path parent material rest (w.tell (.cyclicChild parent id) s)
          else
            let (top, s) := c.groupIn w node material s
            let (inner, s) := belowIn c w (id :: path) id top.material node.children s
            let (others, s) := belowIn c w path parent material rest s
            (.node top inner :: others, s)
termination_by (c.nodes.unvisited path, children.length)
decreasing_by
  · exact Prod.Lex.right _ (by simp)
  · exact Prod.Lex.right _ (by simp)
  · exact Prod.Lex.left _ _
      (NodeDictionary.unvisited_lt (NodeDictionary.contains_of_get? ‹_›)
        (Bool.eq_false_iff.mpr ‹_›))
  · exact Prod.Lex.right _ (by simp)

/-- The trees of a scene: its root is shown like the only child of nothing. -/
def showIn (c : Catalog α) (w : Workshop α σ) (root : String) (material : MaterialHandle α)
    (s : σ) : List (Tree (Group α)) × σ :=
  c.belowIn w [] rootParent material [root] s

/-! ## Its steps -/

/-- What a node bears. -/
inductive Bears (node : Node α) : Prop where
  | nothing (hg : node.geometry = none)
  | lit (lamp : Lamp α) (hg : node.geometry = some (.lamp lamp)) (on : lamp.enabled = true)
  | unlit (lamp : Lamp α) (hg : node.geometry = some (.lamp lamp)) (off : lamp.enabled = false)
  | figure (f : Figure α) (hg : node.geometry = some (.figure f))

omit [Angular α] in
theorem bears (node : Node α) : Bears node := by
  cases hg : node.geometry with
  | none => exact .nothing hg
  | some geometry =>
      cases geometry with
      | figure f => exact .figure f hg
      | lamp lamp =>
          cases hlamp : lamp.enabled with
          | true => exact .lit lamp hg hlamp
          | false => exact .unlit lamp hg hlamp

section Steps

variable {path rest : List String} {parent id : String} {material : MaterialHandle α} {s t : σ}
  {node : Node α}

theorem objectIn?_none (hg : node.geometry = none) :
    c.objectIn? w node material s = (none, s) := by
  simp only [objectIn?, hg]

theorem objectIn?_lit {lamp : Lamp α} (hg : node.geometry = some (.lamp lamp))
    (on : lamp.enabled = true) :
    c.objectIn? w node material s = (some (.light lamp.light), s) := by
  simp only [objectIn?, hg, on, if_true]

/-- A lamp that is off is only noted. -/
theorem objectIn?_unlit {lamp : Lamp α} (hg : node.geometry = some (.lamp lamp))
    (off : lamp.enabled = false) :
    c.objectIn? w node material s = (none, w.note (.lampOff node.id lamp.tag) s) := by
  simp only [objectIn?, hg, off, Bool.false_eq_true, if_false]

/-- The program stops while it builds a figure, and the walk goes on without it. -/
theorem objectIn?_stopped {figure : Figure α} (hg : node.geometry = some (.figure figure))
    (hw : w.figure node.id figure s = (none, t)) :
    c.objectIn? w node material s = (none, t) := by
  simp only [objectIn?, hg, hw]

/-- A figure that cannot be built leaves the group without it. -/
theorem objectIn?_error {figure : Figure α} {e : GeometryError}
    (hg : node.geometry = some (.figure figure))
    (hw : w.figure node.id figure s = (some (.error e), t)) :
    c.objectIn? w node material s = (none, t) := by
  simp only [objectIn?, hg, hw]

theorem objectIn?_ok {figure : Figure α} {placed : PlacedMesh α}
    (hg : node.geometry = some (.figure figure))
    (hw : w.figure node.id figure s = (some (.ok placed), t)) :
    c.objectIn? w node material s =
      (some (.mesh
        { handle := placed.handle
          material := c.appearance material figure
          position := placed.offset
          castShadows := node.castShadows
          receiveShadows := node.receiveShadows }),
        (c.unknownTexture? node.id figure).elim t fun d => w.tell d t) := by
  simp only [objectIn?, hg, hw]

theorem belowIn_nil : c.belowIn w path parent material [] s = ([], s) := by
  rw [belowIn]

theorem belowIn_dangling (missing : c.nodes.get? id = none) :
    c.belowIn w path parent material (id :: rest) s =
      c.belowIn w path parent material rest (w.tell (.danglingChild parent id) s) := by
  rw [belowIn]
  split
  · rfl
  next found => rw [missing] at found; cases found

theorem belowIn_cyclic (found : c.nodes.get? id = some node) (onPath : id ∈ path) :
    c.belowIn w path parent material (id :: rest) s =
      c.belowIn w path parent material rest (w.tell (.cyclicChild parent id) s) := by
  rw [belowIn]
  split
  next missing => rw [found] at missing; cases missing
  · rw [dif_pos (List.contains_iff_mem.mpr onPath)]

theorem belowIn_group (found : c.nodes.get? id = some node) (offPath : id ∉ path)
    {top : Group α} {inner others : List (Tree (Group α))} {t u v : σ}
    (group : c.groupIn w node material s = (top, t))
    (below : c.belowIn w (id :: path) id top.material node.children t = (inner, u))
    (after : c.belowIn w path parent material rest u = (others, v)) :
    c.belowIn w path parent material (id :: rest) s = (.node top inner :: others, v) := by
  rw [belowIn]
  split
  next missing => rw [found] at missing; cases missing
  next other hother =>
    obtain rfl : node = other := Option.some.inj (found.symm.trans hother)
    rw [dif_neg (fun hmem => offPath (List.contains_iff_mem.mp hmem))]
    simp only [group, below, after]

end Steps

/-! ## The walk of a pass -/

theorem groupIn_remembering (node : Node α) (material : MaterialHandle α) (p : Pass α) :
    c.groupIn .remembering node material p = c.group node material p := rfl

/-- What a pass shows is shown with the workshop that remembers. -/
theorem belowIn_of_shown {path children : List String} {parent : String}
    {material : MaterialHandle α} {p q : Pass α} {trees : List (Tree (Group α))}
    (hs : Shown c path parent material children p trees q) :
    c.belowIn .remembering path parent material children p = (trees, q) := by
  induction hs with
  | nil => exact belowIn_nil
  | dangling missing _ ih => rw [belowIn_dangling missing]; exact ih
  | cyclic found onPath _ ih => rw [belowIn_cyclic found onPath]; exact ih
  | @group path _ id material _ p _ _ _ _ node found offPath _ _ ihBelow ihRest =>
      exact belowIn_group found offPath (groupIn_remembering node material p) ihBelow ihRest

/-- A scene is what is shown with the workshop that remembers. -/
theorem showIn_remembering (h : c.nodes.Consistent) (journal : Journal) (root : String)
    (material : MaterialHandle α) :
    ∃ q, c.showIn .remembering root material (start journal) =
        ((c.instantiateAfter journal root material).1.trees, q) ∧
      (c.instantiateAfter journal root material).1.problems = q.journal.problems ∧
      (c.instantiateAfter journal root material).2 = { q with journal := .empty } := by
  obtain ⟨q, hs, hproblems, hpass⟩ := shown_instantiateAfter h journal root material
  exact ⟨q, belowIn_of_shown hs, hproblems, hpass⟩

end Catalog

/-! ## Workshops side by side -/

namespace NodeDictionary

variable {α : Type} {d : NodeDictionary α}

/-- The node of an id carries a figure. -/
def Carries (d : NodeDictionary α) (id : String) (figure : Figure α) : Prop :=
  ∃ node, d.get? id = some node ∧ node.geometry = some (.figure figure)

/-- There is one figure for an id. -/
theorem Carries.unique {id : String} {f g : Figure α} (hf : d.Carries id f)
    (hg : d.Carries id g) : f = g := by
  obtain ⟨node, found, hnode⟩ := hf
  obtain ⟨other, hother, hgeometry⟩ := hg
  obtain rfl : node = other := Option.some.inj (found.symm.trans hother)
  rw [hnode] at hgeometry
  cases hgeometry
  rfl

end NodeDictionary

/-- Two workshops answer alike on what the nodes of a dictionary carry, as long as
their states are in step, and whatever they do keeps the states in step. -/
structure Workshop.Follows {α σ τ : Type} (d : NodeDictionary α) (w : Workshop α σ)
    (v : Workshop α τ) (R : σ → τ → Prop) : Prop where
  /-- They answer alike. -/
  answer : ∀ {id : String} {f : Figure α} {s : σ} {t : τ}, d.Carries id f → R s t →
    (w.figure id f s).1 = (v.figure id f t).1
  /-- Answering keeps them in step. -/
  figure : ∀ {id : String} {f : Figure α} {s : σ} {t : τ}, d.Carries id f → R s t →
    R (w.figure id f s).2 (v.figure id f t).2
  /-- Telling a problem keeps them in step. -/
  tell : ∀ {p : Diagnostic} {s : σ} {t : τ}, R s t → R (w.tell p s) (v.tell p t)
  /-- Making a note keeps them in step. -/
  note : ∀ {n : Note} {s : σ} {t : τ}, R s t → R (w.note n s) (v.note n t)

namespace Workshop.Follows

variable {α σ τ : Type} {c : Catalog α} {w : Workshop α σ} {v : Workshop α τ}
  {R : σ → τ → Prop} {s : σ} {t : τ}

/-- Telling a problem, if there is one, keeps workshops in step. -/
theorem tell_elim (h : Follows c.nodes w v R) (hst : R s t) (problem? : Option Diagnostic) :
    R (problem?.elim s fun d => w.tell d s) (problem?.elim t fun d => v.tell d t) := by
  cases problem? with
  | none => exact hst
  | some d => exact h.tell hst

/-- A workshop that follows another gives the same answer to the same question. -/
theorem exists_answer (h : Follows c.nodes w v R) (hst : R s t) {id : String} {f : Figure α}
    (carried : c.nodes.Carries id f) :
    ∃ built s' t', w.figure id f s = (built, s') ∧ v.figure id f t = (built, t') ∧ R s' t' :=
  ⟨_, _, _, rfl, Prod.ext (h.answer carried hst).symm rfl, h.figure carried hst⟩

variable [Angular α]

/-- It makes the same object of a node. -/
theorem exists_object? (h : Follows c.nodes w v R) (hst : R s t) {id : String} {node : Node α}
    (found : c.nodes.get? id = some node) (hid : node.id = id) (material : MaterialHandle α) :
    ∃ object s' t', c.objectIn? w node material s = (object, s') ∧
      c.objectIn? v node material t = (object, t') ∧ R s' t' := by
  cases Catalog.bears node with
  | nothing hg => exact ⟨none, s, t, Catalog.objectIn?_none hg, Catalog.objectIn?_none hg, hst⟩
  | lit lamp hg on =>
      exact ⟨_, s, t, Catalog.objectIn?_lit hg on, Catalog.objectIn?_lit hg on, hst⟩
  | unlit lamp hg off =>
      exact ⟨none, _, _, Catalog.objectIn?_unlit hg off, Catalog.objectIn?_unlit hg off,
        h.note hst⟩
  | figure f hg =>
      obtain ⟨built, s', t', hw, hv, hstep⟩ := h.exists_answer hst ⟨node, hid ▸ found, hg⟩
      match built with
      | none =>
          exact ⟨none, s', t', Catalog.objectIn?_stopped hg hw, Catalog.objectIn?_stopped hg hv,
            hstep⟩
      | some (.error e) =>
          exact ⟨none, s', t', Catalog.objectIn?_error hg hw, Catalog.objectIn?_error hg hv, hstep⟩
      | some (.ok placed) =>
          exact ⟨_, _, _, Catalog.objectIn?_ok hg hw, Catalog.objectIn?_ok hg hv,
            h.tell_elim hstep _⟩

/-- It makes the same group of a node. -/
theorem exists_group (h : Follows c.nodes w v R) (hst : R s t) {id : String} {node : Node α}
    (found : c.nodes.get? id = some node) (hid : node.id = id) (material : MaterialHandle α) :
    ∃ top s' t', c.groupIn w node material s = (top, s') ∧
      c.groupIn v node material t = (top, t') ∧ R s' t' := by
  obtain ⟨object, s', t', hw, hv, hstep⟩ := h.exists_object?
    (h.tell_elim hst (c.unknownMaterial? node)) found hid (c.effective node material)
  unfold Catalog.groupIn
  simp only [hw, hv]
  exact ⟨_, s', t', rfl, rfl, hstep⟩

/-- A walk makes the same trees with both workshops.  The induction is on the walk, and
what is told of a child keeps the states in step for those after it. -/
theorem exists_below (h : Follows c.nodes w v R) (hc : c.nodes.Consistent) (hst : R s t)
    (path : List String) (parent : String) (material : MaterialHandle α)
    (children : List String) :
    ∃ trees s' t', c.belowIn w path parent material children s = (trees, s') ∧
      c.belowIn v path parent material children t = (trees, t') ∧ R s' t' := by
  induction path, parent, material, children, s using Catalog.belowIn.induct c w
    generalizing t with
  | case1 path parent material s =>
      exact ⟨[], s, t, Catalog.belowIn_nil, Catalog.belowIn_nil, hst⟩
  | case2 path parent material s id rest missing ih =>
      rw [Catalog.belowIn_dangling missing, Catalog.belowIn_dangling missing]
      exact ih (h.tell hst)
  | case3 path parent material s id rest node found onPath ih =>
      have hmem := List.contains_iff_mem.mp onPath
      rw [Catalog.belowIn_cyclic found hmem, Catalog.belowIn_cyclic found hmem]
      exact ih (h.tell hst)
  | case4 path parent material s id rest node found offPath top s₁ htop inner s₂ hinner
      others s₃ hothers ihBelow ihRest =>
      have hmem : id ∉ path := fun hmem => offPath (List.contains_iff_mem.mpr hmem)
      -- the group, what is below it and the rest, each from where the one before has ended
      obtain ⟨_, _, t₁, hw₁, hv₁, h₁⟩ :=
        h.exists_group hst found (hc.get?_eq_some_iff.mp found).2 material
      cases hw₁.symm.trans htop
      obtain ⟨_, _, t₂, hw₂, hv₂, h₂⟩ := ihBelow h₁
      cases hw₂.symm.trans hinner
      obtain ⟨_, _, t₃, hw₃, hv₃, h₃⟩ := ihRest h₂
      exact ⟨_, _, t₃, Catalog.belowIn_group found hmem hw₁ hw₂ hw₃,
        Catalog.belowIn_group found hmem hv₁ hv₂ hv₃, h₃⟩

/-- So they make the same scene. -/
theorem exists_scene (h : Follows c.nodes w v R) (hc : c.nodes.Consistent) (hst : R s t)
    (root : String) (material : MaterialHandle α) :
    ∃ trees s' t', c.showIn w root material s = (trees, s') ∧
      c.showIn v root material t = (trees, t') ∧ R s' t' :=
  h.exists_below hc hst [] Catalog.rootParent material [root]

end Workshop.Follows

end Scenery
