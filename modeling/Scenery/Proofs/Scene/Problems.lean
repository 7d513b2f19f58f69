import Scenery.Proofs.Scene.Memory
import Scenery.Proofs.Scene.Routes

/-!
# What is told of a scene

`Catalog.Faulty` says what is wrong with a scene, from its nodes, materials and textures
alone: nodes that can be come to may list ids that are no nodes, ask for materials and
textures that are not there, or carry figures that cannot be built, and a simple path may
end at a node that leads back to it.  A scene tells of all that, of nothing else, and of
nothing twice (`Catalog.mem_problems_iff`, `Catalog.nodup_problems`).

*What a walk tells.*  It does not matter what a pass remembers, so this is about a pass
that looks nothing up.  Such a pass tells of a node whenever it shows it, and of its
children.  What it tells below a path are the problems at the ends of all that continues
the path (`Catalog.mem_problems_belowIn`).  From a root alone these are the ends of the
simple paths.

*Ends of simple paths.*  A problem of a node itself is told at the end of any simple path
to it, and there is one if the node can be come to at all.  It takes a simple path to say
what leads back, and there the path matters.
-/

namespace Scenery

namespace Catalog

variable {α : Type} {c : Catalog α}

/-! ## Problems with children -/

/-- A problem with a child of the node at the end of a path. -/
inductive ChildProblem (c : Catalog α) (path : List String) (parent child : String) :
    Diagnostic → Prop where
  /-- The child is no node. -/
  | dangling (missing : c.nodes.get? child = none) :
      ChildProblem c path parent child (.danglingChild parent child)
  /-- The child is on the path. -/
  | cyclic {node : Node α} (found : c.nodes.get? child = some node) (back : child ∈ path) :
      ChildProblem c path parent child (.cyclicChild parent child)

section Children

variable {path : List String} {parent id : String} {node : Node α} {d : Diagnostic}

/-- The one problem with a child that is no node is that it dangles. -/
theorem childProblem_of_missing (missing : c.nodes.get? id = none) :
    c.ChildProblem path parent id d ↔ d = .danglingChild parent id := by
  constructor
  · intro h
    cases h with
    | dangling => rfl
    | cyclic found => rw [missing] at found; cases found
  · rintro rfl
    exact .dangling missing

/-- The one problem with a child on the path is that it leads back. -/
theorem childProblem_of_back (found : c.nodes.get? id = some node) (back : id ∈ path) :
    c.ChildProblem path parent id d ↔ d = .cyclicChild parent id := by
  constructor
  · intro h
    cases h with
    | dangling missing => rw [missing] at found; cases found
    | cyclic => rfl
  · rintro rfl
    exact .cyclic found back

/-- A node off the path is no problem as a child. -/
theorem not_childProblem (found : c.nodes.get? id = some node) (off : id ∉ path) :
    ¬ c.ChildProblem path parent id d := by
  intro h
  cases h with
  | dangling missing => rw [missing] at found; cases found
  | cyclic _ back => exact off back

end Children

/-! ## Problems of nodes -/

variable [Angular α]

/-- A problem of a node itself, wherever it is shown. -/
inductive OwnProblem (c : Catalog α) (node : Node α) : Diagnostic → Prop where
  /-- It names a material that is in no table. -/
  | material {name : String} (named : node.materialRef = some name)
      (unknown : c.materials.lookup name = none) :
      OwnProblem c node (.unknownMaterial node.id name)
  /-- Its figure cannot be built. -/
  | geometry {figure : Figure α} {e : GeometryError}
      (carried : node.geometry = some (.figure figure))
      (failed : figure.build? = some (.error e)) :
      OwnProblem c node (.geometry node.id e)
  /-- It is a screen for a video that is in no table. -/
  | texture {v : Video α} {shape : Shape α} (carried : node.geometry = some (.figure (.video v)))
      (built : (Figure.video v).build? = some (.ok shape))
      (unknown : c.textures.lookup (Text.lower v.textureRef) = none) :
      OwnProblem c node (.unknownTexture node.id (Text.lower v.textureRef))

/-- A problem of a scene that is shown from a root. -/
inductive Faulty (c : Catalog α) (root : String) : Diagnostic → Prop where
  /-- A node that can be come to lists an id that is no node. -/
  | dangling {parent child : String} (reached : c.nodes.Reaches root parent)
      (listed : c.nodes.Lists parent child) (missing : c.nodes.contains child = false) :
      Faulty c root (.danglingChild parent child)
  /-- The last node of a simple path lists one that is on the path. -/
  | cyclic {way : List String} {last child : String} (path : c.nodes.SimplePath root way)
      (ends : way.getLast? = some last) (listed : c.nodes.Lists last child)
      (back : child ∈ way) : Faulty c root (.cyclicChild last child)
  /-- A node that can be come to has a problem itself. -/
  | own {id : String} {node : Node α} {d : Diagnostic} (reached : c.nodes.Reaches root id)
      (found : c.nodes.get? id = some node) (problem : c.OwnProblem node d) : Faulty c root d

/-- A problem of the node at the end of a path, or with its children. -/
def ProblemAt (c : Catalog α) : List String → Diagnostic → Prop
  | [], _ => False
  | id :: above, d => ∃ node, c.nodes.get? id = some node ∧
      (c.OwnProblem node d ∨ ∃ child ∈ node.children, c.ChildProblem (id :: above) id child d)

/-- A problem at the end of something that continues a path through the children. -/
def ProblemBelow (c : Catalog α) (path children : List String) (d : Diagnostic) : Prop :=
  ∃ next rest, c.nodes.Continues path children (next :: rest) ∧
    c.ProblemAt (rest.reverse ++ next :: path) d

/-! ## What is told of one node -/

section Told

variable {node : Node α} {p : Pass α} {d : Diagnostic}

omit [Angular α] in
/-- A material is unknown if it is written and the table has no such name. -/
theorem unknownMaterial?_eq_some_iff :
    c.unknownMaterial? node = some d ↔ ∃ name, node.materialRef = some name ∧
      c.materials.lookup name = none ∧ .unknownMaterial node.id name = d := by
  simp [unknownMaterial?, Option.bind_eq_some_iff]

omit [Angular α] in
/-- The texture of a video is unknown if the table has no such name. -/
theorem unknownTexture?_eq_some_iff {id : String} {figure : Figure α} :
    c.unknownTexture? id figure = some d ↔ ∃ v, figure = .video v ∧
      c.textures.lookup (Text.lower v.textureRef) = none ∧
      .unknownTexture id (Text.lower v.textureRef) = d := by
  cases figure with
  | video v => simp [unknownTexture?]
  | _ => simp [unknownTexture?]

/-- A node's own problems: its material, a figure that fails, and the texture of a figure that does
not. -/
theorem ownProblem_iff :
    c.OwnProblem node d ↔ c.unknownMaterial? node = some d ∨
      ∃ figure, node.geometry = some (.figure figure) ∧
        ((∃ e, figure.build? = some (.error e) ∧ d = .geometry node.id e) ∨
          ∃ shape, figure.build? = some (.ok shape) ∧
            c.unknownTexture? node.id figure = some d) := by
  rw [unknownMaterial?_eq_some_iff]
  constructor
  · intro h
    cases h with
    | @material name named unknown => exact Or.inl ⟨name, named, unknown, rfl⟩
    | @geometry figure e carried failed =>
        exact Or.inr ⟨figure, carried, Or.inl ⟨e, failed, rfl⟩⟩
    | @texture v shape carried built unknown =>
        exact Or.inr ⟨_, carried, Or.inr ⟨shape, built,
          unknownTexture?_eq_some_iff.mpr ⟨v, rfl, unknown, rfl⟩⟩⟩
  · rintro (⟨name, named, unknown, rfl⟩ | ⟨figure, carried, ⟨e, failed, rfl⟩ | ⟨shape, built, h⟩⟩)
    · exact .material named unknown
    · exact .geometry carried failed
    · obtain ⟨v, rfl, unknown, rfl⟩ := unknownTexture?_eq_some_iff.mp h
      exact .texture carried built unknown

omit [Angular α] in
theorem mem_problems_tell {problem : Diagnostic} :
    d ∈ (p.tell problem).journal.problems ↔ d ∈ p.journal.problems ∨ d = problem :=
  Journal.mem_problems_addOnce

theorem mem_problems_forgetful {problem : Diagnostic} :
    d ∈ (Workshop.forgetful.tell problem p).journal.problems ↔
      d ∈ p.journal.problems ∨ d = problem := mem_problems_tell

/-- What there may be to tell is told if it is there. -/
theorem mem_problems_elim (problem? : Option Diagnostic) :
    d ∈ (problem?.elim p fun problem => Workshop.forgetful.tell problem p).journal.problems ↔
      d ∈ p.journal.problems ∨ problem? = some d := by
  cases problem? with
  | none => simp
  | some problem => simp [mem_problems_forgetful, eq_comm]

/-- Building an object adds the problem of its figure and no other. -/
theorem mem_problems_objectIn? (node : Node α) (material : MaterialHandle α) (p : Pass α) :
    d ∈ (c.objectIn? .forgetful node material p).2.journal.problems ↔
      d ∈ p.journal.problems ∨ ∃ figure, node.geometry = some (.figure figure) ∧
        ((∃ e, figure.build? = some (.error e) ∧ d = .geometry node.id e) ∨
          ∃ shape, figure.build? = some (.ok shape) ∧
            c.unknownTexture? node.id figure = some d) := by
  cases bears node with
  | nothing hg => simp [objectIn?_none hg, hg]
  | lit lamp hg on => simp [objectIn?_lit hg on, hg]
  | unlit lamp hg off =>
      simp [objectIn?_unlit hg off, hg, Workshop.forgetful, Workshop.remembering, Pass.note]
  | figure figure hg =>
      have hw : Workshop.forgetful.figure node.id figure p = p.buildFigure node.id figure := rfl
      cases hb : figure.build? with
      | none =>
          rw [objectIn?_stopped hg (hw.trans (Pass.buildFigure_stopped hb))]
          simp [hg, hb]
      | some built =>
          cases built with
          | error e =>
              rw [objectIn?_error hg (hw.trans (Pass.buildFigure_error hb))]
              simp [mem_problems_tell, Pass.remember, hg, hb]
          | ok shape =>
              rw [objectIn?_ok hg (hw.trans (Pass.buildFigure_ok hb))]
              refine (mem_problems_elim _).trans ?_
              simp [Pass.note, Pass.remember, hg, hb]

/-- Building a group adds its node's own problems and no other. -/
theorem mem_problems_groupIn (node : Node α) (material : MaterialHandle α) (p : Pass α) :
    d ∈ (c.groupIn .forgetful node material p).2.journal.problems ↔
      d ∈ p.journal.problems ∨ c.OwnProblem node d := by
  refine (mem_problems_objectIn? node (c.effective node material) _).trans ?_
  refine (or_congr_left (mem_problems_elim _)).trans ?_
  rw [or_assoc, ← ownProblem_iff]

end Told

/-! ## What is told below a path -/

section Below

variable {path ids : List String} {parent id : String} {node : Node α} {d : Diagnostic}

theorem not_problemBelow_nil : ¬ c.ProblemBelow path [] d := by
  rintro ⟨next, rest, ⟨listed, -⟩, -⟩
  cases listed

/-- A child that is skipped has no problem below it. -/
theorem problemBelow_cons_of_skipped (hskip : c.nodes.get? id = none ∨ id ∈ path) :
    c.ProblemBelow path (id :: ids) d ↔ c.ProblemBelow path ids d := by
  simp only [ProblemBelow, NodeDictionary.continues_cons_of_skipped hskip]

/-- Below a child that goes on are its own problems and those below it. -/
theorem problemBelow_cons_of_found (found : c.nodes.get? id = some node) (off : id ∉ path) :
    c.ProblemBelow path (id :: ids) d ↔
      (c.ProblemAt (id :: path) d ∨ c.ProblemBelow (id :: path) node.children d) ∨
        c.ProblemBelow path ids d := by
  simp only [ProblemBelow, NodeDictionary.continues_cons_of_found found off]
  constructor
  · rintro ⟨next, rest, ⟨rfl, hrest⟩ | hrest, h⟩
    · cases rest with
      | nil => exact Or.inl (Or.inl h)
      | cons second rest =>
          rw [List.reverse_cons, List.append_assoc, List.singleton_append] at h
          exact Or.inl (Or.inr ⟨second, rest, hrest, h⟩)
    · exact Or.inr ⟨next, rest, hrest, h⟩
  · rintro ((h | ⟨next, rest, hrest, h⟩) | ⟨next, rest, hrest, h⟩)
    · exact ⟨id, [], Or.inl ⟨rfl, trivial⟩, h⟩
    · refine ⟨id, next :: rest, Or.inl ⟨rfl, hrest⟩, ?_⟩
      rw [List.reverse_cons, List.append_assoc, List.singleton_append]
      exact h
    · exact ⟨next, rest, Or.inr hrest, h⟩

/-- The problems at the end of a path are the node's own and those with its children. -/
theorem problemAt_cons_of_found (found : c.nodes.get? id = some node) :
    c.ProblemAt (id :: path) d ↔
      c.OwnProblem node d ∨ ∃ child ∈ node.children, c.ChildProblem (id :: path) id child d := by
  simp [ProblemAt, found]

/-- A walk tells of its children, and of what is at the ends of all that continues its
path. -/
theorem mem_problems_belowIn (path : List String) (parent : String)
    (material : MaterialHandle α) (children : List String) (p : Pass α) :
    d ∈ (c.belowIn .forgetful path parent material children p).2.journal.problems ↔
      d ∈ p.journal.problems ∨ (∃ child ∈ children, c.ChildProblem path parent child d) ∨
        c.ProblemBelow path children d := by
  induction path, parent, material, children, p using belowIn.induct c .forgetful with
  | case1 path parent material p =>
      rw [belowIn_nil]
      simp [not_problemBelow_nil]
  | case2 path parent material p id rest missing ih =>
      rw [belowIn_dangling missing, ih, problemBelow_cons_of_skipped (Or.inl missing),
        mem_problems_forgetful]
      simp only [List.exists_mem_cons_iff, childProblem_of_missing missing, or_assoc]
  | case3 path parent material p id rest node found onPath ih =>
      have back := List.contains_iff_mem.mp onPath
      rw [belowIn_cyclic found back, ih, problemBelow_cons_of_skipped (Or.inr back),
        mem_problems_forgetful]
      simp only [List.exists_mem_cons_iff, childProblem_of_back found back, or_assoc]
  | case4 path parent material p id rest node found offPath top p₁ htop inner p₂ hinner
      others p₃ hothers ihBelow ihRest =>
      have off : id ∉ path := fun hmem => offPath (List.contains_iff_mem.mpr hmem)
      -- the group, what is below it and the rest tell in this order, and each adds its own
      have hgroup : d ∈ p₁.journal.problems ↔ d ∈ p.journal.problems ∨ c.OwnProblem node d := by
        rw [← mem_problems_groupIn node material p, htop]
      rw [hinner] at ihBelow
      rw [hothers] at ihRest
      rw [belowIn_group found off htop hinner hothers, ihRest, ihBelow, hgroup,
        problemBelow_cons_of_found found off, problemAt_cons_of_found found]
      simp only [List.exists_mem_cons_iff, not_childProblem found off, false_or, or_assoc,
        or_left_comm]

end Below

/-! ## Ends of simple paths -/

section Ends

variable {root id : String} {way : List String} {d : Diagnostic}

/-- From a root alone, what is told is at the ends of the simple paths. -/
theorem problemBelow_root_iff (h : c.nodes.Consistent) :
    c.ProblemBelow [] [root] d ↔
      ∃ way, c.nodes.SimplePath root way ∧ c.ProblemAt way.reverse d := by
  constructor
  · rintro ⟨next, rest, hrest, hd⟩
    refine ⟨next :: rest, (NodeDictionary.continues_root_iff h).mp ⟨by simp, hrest⟩, ?_⟩
    rw [List.reverse_cons]
    exact hd
  · rintro ⟨way, hway, hd⟩
    obtain ⟨hne, hcontinues⟩ := (NodeDictionary.continues_root_iff h).mpr hway
    cases way with
    | nil => exact absurd rfl hne
    | cons next rest =>
        rw [List.reverse_cons] at hd
        exact ⟨next, rest, hcontinues, hd⟩

/-- The problems at the end of a way are those of its last node. -/
theorem problemAt_reverse_iff (hlast : way.getLast? = some id) :
    c.ProblemAt way.reverse d ↔ ∃ node, c.nodes.get? id = some node ∧
      (c.OwnProblem node d ∨ ∃ child ∈ node.children, c.ChildProblem way.reverse id child d) := by
  obtain ⟨before, rfl⟩ := List.getLast?_eq_some_iff.mp hlast
  rw [List.reverse_append, List.reverse_singleton, List.singleton_append]
  exact Iff.rfl

/-- What is wrong with a scene are the problems at the ends of the simple paths. -/
theorem faulty_iff (h : c.nodes.Consistent) :
    c.Faulty root d ↔ ∃ way, c.nodes.SimplePath root way ∧ c.ProblemAt way.reverse d := by
  constructor
  · intro hd
    cases hd with
    | @dangling parent child reached listed missing =>
        obtain ⟨way, hway, hlast⟩ := reached.exists_simplePath
        obtain ⟨node, found, hchild⟩ := listed
        have hnone := h.get?_eq_none_iff.mpr missing
        exact ⟨way, hway, (problemAt_reverse_iff hlast).mpr
          ⟨node, found, Or.inr ⟨child, hchild, .dangling hnone⟩⟩⟩
    | @cyclic way last child hway ends listed back =>
        obtain ⟨node, found, hchild⟩ := listed
        obtain ⟨other, hother⟩ := h.contains_iff_get?.mp (hway.held child back)
        exact ⟨way, hway, (problemAt_reverse_iff ends).mpr
          ⟨node, found, Or.inr ⟨child, hchild, .cyclic hother (List.mem_reverse.mpr back)⟩⟩⟩
    | own reached found problem =>
        obtain ⟨way, hway, hlast⟩ := reached.exists_simplePath
        exact ⟨way, hway, (problemAt_reverse_iff hlast).mpr ⟨_, found, Or.inl problem⟩⟩
  · rintro ⟨way, hway, hd⟩
    cases hlast : way.getLast? with
    | none =>
        rw [List.getLast?_eq_none_iff.mp hlast] at hd
        cases hd
    | some last =>
        obtain ⟨node, found, problem | ⟨child, hchild, problem⟩⟩ :=
          (problemAt_reverse_iff hlast).mp hd
        · exact .own (hway.reaches hlast) found problem
        · cases problem with
          | dangling missing =>
              have hnot := h.get?_eq_none_iff.mp missing
              exact .dangling (hway.reaches hlast) ⟨node, found, hchild⟩ hnot
          | cyclic _ back =>
              exact .cyclic hway hlast ⟨node, found, hchild⟩ (List.mem_reverse.mp back)

end Ends

/-! ## Whole scenes -/

/-- A scene tells of what is wrong with it. -/
theorem mem_problems_iff (h : c.nodes.Consistent) (journal : Journal) {root : String}
    (hroot : c.nodes.contains root = true) (material : MaterialHandle α) (d : Diagnostic) :
    d ∈ (c.instantiateAfter journal root material).1.problems ↔
      d ∈ journal.problems ∨ c.Faulty root d := by
  obtain ⟨node, found⟩ := h.contains_iff_get?.mp hroot
  rw [(thrifty_of_consistent h journal root material).problems, showIn, mem_problems_belowIn,
    problemBelow_root_iff h, faulty_iff h]
  simp [start, not_childProblem found List.not_mem_nil]

/-- Without a node for its root it tells of that alone. -/
theorem problems_of_missing (journal : Journal) {root : String}
    (hroot : c.nodes.contains root = false) (material : MaterialHandle α) :
    (c.instantiateAfter journal root material).1.problems =
      (journal.addOnce (.danglingChild rootParent root)).problems := by
  unfold instantiateAfter
  simp only [hroot, Bool.false_eq_true, if_false, Scene.problems, Journal.problems_note]
  rfl

/-- A pass that looks nothing up goes along with itself and tells each problem once. -/
theorem forgetful_follows_nodup (d : NodeDictionary α) :
    (Workshop.forgetful : Workshop α (Pass α)).Follows d .forgetful
      fun p q => p = q ∧ q.journal.problems.Nodup where
  answer _ h := by rw [h.1]
  figure {id f p q} _ h := by
    obtain ⟨rfl, hnodup⟩ := h
    refine ⟨rfl, ?_⟩
    change (p.buildFigure id f).2.journal.problems.Nodup
    match hb : f.build? with
    | none =>
        rw [Pass.buildFigure_stopped hb]
        exact hnodup
    | some (.ok shape) =>
        rw [Pass.buildFigure_ok hb, Pass.note, Journal.problems_note]
        exact hnodup
    | some (.error e) =>
        rw [Pass.buildFigure_error hb]
        exact Journal.nodup_problems_addOnce hnodup _
  tell {d p q} h := ⟨congrArg (Pass.tell · d) h.1, Journal.nodup_problems_addOnce h.2 _⟩
  note {n p q} h := by
    refine ⟨congrArg (Pass.note · n) h.1, ?_⟩
    change (q.note n).journal.problems.Nodup
    rw [Pass.note, Journal.problems_note]
    exact h.2

/-- A scene tells of nothing twice. -/
theorem nodup_problems (h : c.nodes.Consistent) (journal : Journal)
    (hjournal : journal.problems.Nodup) (root : String) (material : MaterialHandle α) :
    (c.instantiateAfter journal root material).1.problems.Nodup := by
  rw [(thrifty_of_consistent h journal root material).problems]
  obtain ⟨_, p, q, hw, -, rfl, hnodup⟩ := (forgetful_follows_nodup c.nodes).exists_scene h
    (s := start journal) ⟨rfl, hjournal⟩ root material
  rw [hw]
  exact hnodup

/-- Whatever nodes, materials and textures there are, a scene whose root is a node tells of
what is wrong with it, and of each problem once. -/
theorem problems_instantiate (nodes : List (Node α)) (materials : MaterialTable α)
    (textures : TextureTable) (root : String)
    (hroot : (NodeDictionary.ofList nodes).contains root = true) (material : MaterialHandle α) :
    ((⟨.ofList nodes, materials, textures⟩ : Catalog α).instantiate root
        material).problems.Nodup ∧
      ∀ d, d ∈ ((⟨.ofList nodes, materials, textures⟩ : Catalog α).instantiate root
          material).problems ↔
        (⟨.ofList nodes, materials, textures⟩ : Catalog α).Faulty root d := by
  have h : (NodeDictionary.ofList nodes).Consistent := NodeDictionary.consistent_ofList nodes
  constructor
  · exact nodup_problems h .empty List.nodup_nil root material
  · intro d
    refine (mem_problems_iff h .empty hroot material d).trans ?_
    simp

/-- What is told of nodes with ways back and with a child that is no node. -/
theorem problems_instantiate_knot :
    (NodeDictionary.ofList knot).contains "root" = true ∧
      ((⟨.ofList knot, .empty, .empty⟩ : Catalog Float32).instantiate "root"
        (.free .neutral)).problems.Nodup ∧
      ∀ d, d ∈ ((⟨.ofList knot, .empty, .empty⟩ : Catalog Float32).instantiate "root"
          (.free .neutral)).problems ↔
        (⟨.ofList knot, .empty, .empty⟩ : Catalog Float32).Faulty "root" d := by
  have hroot : (NodeDictionary.ofList knot).contains "root" = true :=
    NodeDictionary.contains_ofList.mpr ⟨plainNode "root" ["left", "right", "root"],
      List.mem_cons_self .., rfl⟩
  exact ⟨hroot, problems_instantiate knot .empty .empty "root" hroot (.free .neutral)⟩

end Catalog

end Scenery
