import Scenery.Proofs.Node.Confined
import Scenery.Proofs.Omission.Document

/-!
# The order of a document

Where the members of a document stand makes no difference, nor does it where the records stand
among the members of its graph.  Either way the same error is told, or documents are made
that are alike (`Document.agree_of_reordered`): they have the same sections, entry by entry in
the same order, the same root id, and the same record for each id.  A wrapper around a document
makes no difference either.  `Document.OrderFree` puts this together.

*Agreement.*  Sections are read one after another, and the first that cannot be read is told.
So what is compared is outcomes (`Agree`), and reading on from outcomes that agree is all that
is needed to compare whole documents (`Agree.bind`).

*Order that matters.*  The entries of the other sections and the children of a record are gone
through in their order, so it has to be the one that is written (`Document.Kept`).  It is, since
a section and a record are values that are found whole.

*Taking out.*  A section may also be taken out of its document when it is read, and the root id
out of the graph, and each time the last member moves into the place that becomes free.  What is
left is in another order then, but a member that has not been taken out is still found
(`Document.Left.swapOut`), and no section changes (`Document.agree_takeValue`).
-/

namespace Scenery

/-! ## Outcomes that agree -/

/-- Two outcomes agree: the same error, or values that are related. -/
inductive Agree {β γ : Type} (R : β → γ → Prop) :
    Except LoadError β → Except LoadError γ → Prop where
  | error (e : LoadError) : Agree R (.error e) (.error e)
  | ok {b : β} {c : γ} (h : R b c) : Agree R (.ok b) (.ok c)

namespace Agree

variable {β γ δ ε : Type} {R : β → γ → Prop} {S : δ → ε → Prop}

/-- An outcome agrees with itself when every value is related to itself. -/
theorem refl {R : β → β → Prop} (hR : ∀ b, R b b) (x : Except LoadError β) : Agree R x x := by
  cases x with
  | error e => exact .error e
  | ok b => exact .ok (hR b)

/-- What goes on from outcomes that agree agrees if it does for related values. -/
theorem bind {x : Except LoadError β} {y : Except LoadError γ} {f : β → Except LoadError δ}
    {g : γ → Except LoadError ε} (h : Agree R x y) (hnext : ∀ b c, R b c → Agree S (f b) (g c)) :
    Agree S (x >>= f) (y >>= g) := by
  cases h with
  | error e => exact .error e
  | ok hbc => exact hnext _ _ hbc

/-- The same outcome goes on in two ways that agree. -/
theorem bind_same (x : Except LoadError β) {f : β → Except LoadError δ} {g : β → Except LoadError ε}
    (hnext : ∀ b, Agree S (f b) (g b)) : Agree S (x >>= f) (x >>= g) := by
  cases x with
  | error e => exact .error e
  | ok b => exact hnext b

end Agree

namespace Json

/-! ## Members in another order -/

/-- The members of an object are put in another order, or those of its graph are, or both. -/
inductive Rearranged : Members → Members → Prop where
  | members {ms ns : Members} (h : ns.Perm ms) : Rearranged ms ns
  | graph {before after graph graph' : Members} (h : graph'.Perm graph) :
      Rearranged (before ++ ("graph", .object graph) :: after)
        (before ++ ("graph", .object graph') :: after)
  | both {ms ns os : Members} (h : Rearranged ms ns) (h' : Rearranged ns os) : Rearranged ms os

/-- Two lists of members have the same values but for the graph, whose members may be in another
order. -/
structure Matched (ms ns : Members) : Prop where
  distinct : (keys ns).Nodup
  others : ∀ key, key ≠ "graph" → ns.lookup key = ms.lookup key
  graph : ns.lookup "graph" = ms.lookup "graph" ∨
    ∃ graph graph', ms.lookup "graph" = some (.object graph) ∧
      ns.lookup "graph" = some (.object graph') ∧ graph'.Perm graph

variable {ms ns os : Members}

/-- Two changes of order, one after the other, are one. -/
theorem Matched.trans (h : Matched ms ns) (h' : Matched ns os) : Matched ms os where
  distinct := h'.distinct
  others key hkey := (h'.others key hkey).trans (h.others key hkey)
  graph := by
    rcases h'.graph with hsame' | ⟨g, g', hg, hg', hperm'⟩
    · rw [hsame']
      exact h.graph
    · rcases h.graph with hsame | ⟨f, f', hf, hf', hperm⟩
      · exact Or.inr ⟨g, g', hsame ▸ hg, hg', hperm'⟩
      · rw [hf'] at hg
        cases hg
        exact Or.inr ⟨f, g', hf, hg', hperm'.trans hperm⟩

/-- Reordering keeps every value but the graph, and permutes the graph at most. -/
theorem Rearranged.matched (h : Rearranged ms ns) (hkeys : (keys ms).Nodup) : Matched ms ns := by
  induction h with
  | members hperm =>
      exact ⟨(hperm.map _).nodup_iff.mpr hkeys, fun key _ => lookup_perm hkeys hperm key,
        Or.inl (lookup_perm hkeys hperm "graph")⟩
  | @graph before after graph graph' hperm =>
      have hkeys' : (keys (before ++ ("graph", .object graph') :: after)).Nodup := by
        simpa [keys] using hkeys
      refine ⟨hkeys', ?_, Or.inr ⟨graph, graph', ?_, ?_, hperm⟩⟩
      · intro key hkey
        have hne : (key == "graph") = false := beq_false_of_ne hkey
        simp only [List.lookup_append, List.lookup_cons, hne]
      · exact (lookup_eq_some_iff hkeys).mpr (by simp)
      · exact (lookup_eq_some_iff hkeys').mpr (by simp)
  | both _ _ ih ih' =>
      have hfirst := ih hkeys
      exact hfirst.trans (ih' hfirst.distinct)

end Json

namespace Records

/-- Two graphs with the same root id, and with the same record for each id. -/
structure Alike (g g' : Records) : Prop where
  rootId : g'.rootId = g.rootId
  record : ∀ id, g'.record? id = g.record? id
  size : g'.size = g.size

theorem Alike.refl (g : Records) : Alike g g := ⟨rfl, fun _ => rfl, rfl⟩

/-- What is left of the members of a graph section may stand in any order. -/
theorem alike_of_perm_drop {ms entries : Json.Members} {id : String}
    (h : (Json.keys ms).Nodup) (hperm : entries.Perm (Json.drop rootKey ms)) :
    Alike ⟨id, Json.drop rootKey ms⟩ ⟨id, entries⟩ :=
  ⟨rfl, Json.lookup_perm (h.sublist (List.filter_sublist.map _)) hperm, hperm.length_eq⟩

/-- A graph section with its entries in another order gives records that are alike. -/
theorem agree_ofSection {ms ns : Json.Members} (h : (Json.keys ms).Nodup) (hperm : ns.Perm ms) :
    Agree Alike (ofSection ms) (ofSection ns) := by
  unfold ofSection
  rw [Json.lookup_perm h hperm]
  split
  next id _ => exact .ok (alike_of_perm_drop h (hperm.filter _))
  next => exact .error _

/-- The records of a graph section when the last member is moved into the place of the root id. -/
def taken (members : Json.Members) : Except LoadError Records :=
  match members.lookup rootKey with
  | some (.string id) => .ok ⟨id, Json.swapOut rootKey members⟩
  | _ => .error .missingRootId

/-- The root id may also be taken out of the graph section by a swap. -/
theorem agree_taken {ms : Json.Members} (h : (Json.keys ms).Nodup) :
    Agree Alike (ofSection ms) (taken ms) := by
  by_cases hroot : ∃ id, ms.lookup rootKey = some (.string id)
  · obtain ⟨id, hroot⟩ := hroot
    rw [ofSection, taken, hroot]
    exact .ok (alike_of_perm_drop h (Json.swapOut_perm_drop h))
  · have hnone : ∀ id, ms.lookup rootKey ≠ some (.string id) := not_exists.mp hroot
    have htaken : taken ms = .error .missingRootId := by
      unfold taken
      split
      next id heq => exact absurd heq (hnone id)
      next => rfl
    rw [Document.ofSection_of_noRoot hnone, htaken]
    exact .error _

end Records

namespace Json.Decode

/-! ## Children -/

variable {β γ : Type} {s : Source}

theorem build_seq {f : Fields (β → γ)} {a : Fields β} {y : γ} :
    (f <*> a).build s = .ok y ↔ ∃ g, f.build s = .ok g ∧ ∃ x, a.build s = .ok x ∧ g x = y := by
  have hseq : (f <*> a).build s = (f.build s >>= fun g => a.build s >>= fun x => .ok (g x)) := rfl
  simp only [hseq, bind_eq_ok_iff, Except.ok.injEq]

theorem build_map {f : β → γ} {a : Fields β} {y : γ} :
    (f <$> a).build s = .ok y ↔ ∃ x, a.build s = .ok x ∧ f x = y := by
  change (a.build s).map f = .ok y ↔ _
  cases a.build s with
  | error e => exact iff_of_false nofun nofun
  | ok x =>
      constructor
      · intro h
        exact ⟨x, rfl, Except.ok.inj h⟩
      · rintro ⟨_, hx, rfl⟩
        cases hx
        rfl

end Json.Decode

namespace NodeRecord

open Json.Decode

/-- The children in the fields of a record are the members that are found for them. -/
theorem children_of_build {s : Source} {r : NodeRecord} (h : fields.build s = .ok r) :
    (s.find "children" = none ∧ r.children = []) ∨
      s.find "children" = some (.object r.children) := by
  obtain ⟨f₁, hf₁, children, hchildren, rfl⟩ := build_seq.mp h
  obtain ⟨f₂, hf₂, receive, -, rfl⟩ := build_seq.mp hf₁
  obtain ⟨f₃, hf₃, cast, -, rfl⟩ := build_seq.mp hf₂
  obtain ⟨f₄, hf₄, material, -, rfl⟩ := build_seq.mp hf₃
  obtain ⟨f₅, hf₅, transforms, -, rfl⟩ := build_seq.mp hf₄
  obtain ⟨type, -, rfl⟩ := build_map.mp hf₅
  simp only [withDefault, field] at hchildren
  split at hchildren
  next value hfound =>
    cases value with
    | object ms =>
        cases hchildren
        exact Or.inr hfound
    | null | bool | number | string | array => cases hchildren
  next hfound =>
    cases hchildren
    exact Or.inl ⟨hfound, rfl⟩

/-- What is written for the children of a record, which may be an object or an array. -/
def writtenChildren : Json → Option Json
  | .object ms => ms.lookup "children"
  | .array xs => xs[5]?
  | _ => none

/-- The children of a record are the members that are written for them, in the same order. -/
theorem children_of_decode {value : Json} {r : NodeRecord} (h : decode value = .ok r) :
    (writtenChildren value = none ∧ r.children = []) ∨
      writtenChildren value = some (.object r.children) := by
  cases value with
  | object ms =>
      obtain ⟨-, -, hbuild⟩ := bind_eq_ok_iff.mp h
      exact children_of_build hbuild
  | array xs =>
      obtain ⟨built, hbuild, hrest⟩ := bind_eq_ok_iff.mp h
      have hlast : fields.names.idxOf "children" = 5 := by decide
      have hr : built = r := by
        split at hrest
        next => cases hrest
        next => exact Except.ok.inj hrest
      have hchildren := children_of_build hbuild
      simp only [hlast] at hchildren
      exact hr ▸ hchildren
  | null | bool | number | string => cases h

end NodeRecord

namespace Document

/-- Two documents with the same sections, entry by entry in the same order, and with graphs that are
alike. -/
structure Alike (d d' : Document) : Prop where
  globals : d'.globals = d.globals
  cameras : d'.cameras = d.cameras
  textures : d'.textures = d.textures
  materials : d'.materials = d.materials
  graph : d.graph.Alike d'.graph

/-! ## Sections -/

/-- The records of a document, if its graph is an object that can be read. -/
def graphOf (read : Json.Members → Except LoadError Records) (root : Json.Members) :
    Except LoadError Records :=
  match root.lookup Part.graph.name with
  | some (.object members) => read members
  | some _ => .error (.notAnObject .graph)
  | none => .error (.missingPart .graph)

/-- The graph of a document is read first, and then the other sections. -/
theorem ofSections_eq (root : Json.Members) : ofSections root = (do
    let graph ← graphOf Records.ofSection root
    let globals ← sectionOf root .globals
    let cameras ← sectionOf root .cameras
    let textures ← sectionOf root .textures
    let materials ← sectionOf root .materials
    return { globals, cameras, textures, materials, graph }) := by
  unfold ofSections graphOf
  generalize root.lookup Part.graph.name = found
  cases found with
  | none => rfl
  | some value => cases value <;> rfl

/-- A section depends on the value under its own name only. -/
theorem sectionOf_congr {root root' : Json.Members} {part : Part}
    (h : root'.lookup part.name = root.lookup part.name) :
    sectionOf root' part = sectionOf root part := by
  rw [sectionOf, sectionOf, h]

/-! ## Another order -/

variable {ms ns root left : Json.Members}

/-- Sections with the same values but for the order of the graph make documents that are alike, or
fail with the same error. -/
theorem agree_of_matched (h : Json.Matched ms ns)
    (hgraph : ∀ graph, ms.lookup Part.graph.name = some (.object graph) →
      (Json.keys graph).Nodup) : Agree Alike (ofSections ms) (ofSections ns) := by
  have hrecords : Agree Records.Alike (graphOf Records.ofSection ms)
      (graphOf Records.ofSection ns) := by
    rcases h.graph with hsame | ⟨graph, graph', hms, hns, hperm⟩
    · have heq : graphOf Records.ofSection ns = graphOf Records.ofSection ms := by
        rw [graphOf, graphOf, Part.name, hsame]
      rw [heq]
      exact .refl Records.Alike.refl _
    · rw [graphOf, graphOf, Part.name, hms, hns]
      exact Records.agree_ofSection (hgraph graph hms) hperm
  have hsection : ∀ part ∈ optionalParts, sectionOf ns part = sectionOf ms part := by
    intro part hpart
    refine sectionOf_congr (h.others _ ?_)
    revert part
    decide
  rw [ofSections_eq, ofSections_eq, hsection .globals (by decide), hsection .cameras (by decide),
    hsection .textures (by decide), hsection .materials (by decide)]
  refine hrecords.bind fun g g' hg => ?_
  refine Agree.bind_same _ fun globals => Agree.bind_same _ fun cameras => ?_
  refine Agree.bind_same _ fun textures => Agree.bind_same _ fun materials => ?_
  exact .ok ⟨rfl, rfl, rfl, rfl, hg⟩

/-! ## Wrappers -/

/-- Members that are no wrapper are read as they stand. -/
theorem unwrapped_of_bare (h : ∀ inner, root ≠ [("yasf", .object inner)]) : unwrapped root = root :=
  (Sections.bare h).eq_unwrapped.symm

/-- A wrapper is taken off unless what is in it is a wrapper. -/
theorem ofValue_wrapper (h : ∀ inner, root ≠ [("yasf", .object inner)]) :
    ofValue (.object [("yasf", .object root)]) = ofValue (.object root) := by
  rw [ofValue, ofValue, unwrapped_of_bare h]
  rfl

/-- What is in a wrapper has distinct keys, as what is around it has. -/
theorem nodup_keys_unwrapped (h : (Json.object root).WellFormed) :
    (Json.keys (unwrapped root)).Nodup := by
  cases h with
  | object distinct hroot =>
      unfold unwrapped
      split
      next inner =>
        cases hroot _ (List.mem_singleton_self _) with
        | object distinct _ => exact distinct
      next => exact distinct

/-- Members in another order are wrapped as before. -/
theorem rearranged_unwrapped (h : Json.Rearranged ms ns) :
    Json.Rearranged (unwrapped ms) (unwrapped ns) := by
  induction h with
  | @members ms ns hperm =>
      by_cases hwrapped : ∃ inner, ms = [("yasf", .object inner)]
      · obtain ⟨inner, rfl⟩ := hwrapped
        rw [List.perm_singleton.mp hperm]
        exact .members (.refl _)
      · have hms : ∀ inner, ms ≠ [("yasf", .object inner)] := not_exists.mp hwrapped
        have hns : ∀ inner, ns ≠ [("yasf", .object inner)] := by
          rintro inner rfl
          exact hms inner (List.perm_singleton.mp hperm.symm)
        rw [unwrapped_of_bare hms, unwrapped_of_bare hns]
        exact .members hperm
  | @graph before after graph graph' hperm =>
      have hbare : ∀ (value : Json) (inner : Json.Members),
          before ++ ("graph", value) :: after ≠ [("yasf", .object inner)] := by
        intro value inner heq
        have hmem : ("graph", value) ∈ [("yasf", Json.object inner)] := heq ▸ by simp
        exact absurd (Prod.mk.inj (List.mem_singleton.mp hmem)).1 (by decide)
      rw [unwrapped_of_bare (hbare _), unwrapped_of_bare (hbare _)]
      exact .graph hperm
  | both _ _ ih ih' => exact .both ih ih'

/-- A document with its members, or those of its graph, in another order, in a wrapper or not. -/
inductive Reordered : Json → Json → Prop where
  | bare {ms ns : Json.Members} (h : Json.Rearranged ms ns) :
      Reordered (.object ms) (.object ns)
  | wrapped {ms ns : Json.Members} (h : Json.Rearranged ms ns) :
      Reordered (.object [("yasf", .object ms)]) (.object [("yasf", .object ns)])

/-- A well formed value in another order makes the same document up to the order of its records, or
fails with the same error. -/
theorem agree_of_reordered {v v' : Json} (hv : v.WellFormed) (h : Reordered v v') :
    Agree Alike (ofValue v) (ofValue v') := by
  have hunwrapped : ∀ {root root' : Json.Members}, (Json.object root).WellFormed →
      Json.Rearranged (unwrapped root) (unwrapped root') →
        Agree Alike (ofValue (.object root)) (ofValue (.object root')) :=
    fun hroot h => agree_of_matched (h.matched (nodup_keys_unwrapped hroot))
      fun graph hgraph => nodup_keys_of_lookup (wellFormed_unwrapped hroot) hgraph
  cases h with
  | bare h => exact hunwrapped hv (rearranged_unwrapped h)
  | wrapped h => exact hunwrapped hv h

/-! ## Taking sections out -/

/-- What is left of members when those of some keys are taken out. -/
structure Left (gone : List String) (root left : Json.Members) : Prop where
  distinct : (Json.keys left).Nodup
  lookup : ∀ key, key ∉ gone → left.lookup key = root.lookup key

variable {gone : List String} {key : String}

/-- Taking out one more moves another member, which is still found. -/
theorem Left.swapOut (h : Left gone root left) (key : String) :
    Left (key :: gone) root (Json.swapOut key left) where
  distinct := ((Json.swapOut_perm_drop h.distinct).map _).nodup_iff.mpr
    (h.distinct.sublist (List.filter_sublist.map _))
  lookup other hother := by
    have hne := List.ne_of_not_mem_cons hother
    have hgone := List.not_mem_of_not_mem_cons hother
    have hdrop : (Json.keys (Json.drop key left)).Nodup :=
      h.distinct.sublist (List.filter_sublist.map _)
    rw [Json.lookup_perm hdrop (Json.swapOut_perm_drop h.distinct), Json.lookup_drop_of_ne hne,
      h.lookup other hgone]

/-- Take a section out of a document: its members, and what is left of the document. -/
def takeSection (part : Part) (root : Json.Members) :
    Except LoadError (Json.Members × Json.Members) := do
  let members ← sectionOf root part
  return (members, Json.swapOut part.name root)

/-- Taking a section out gives what reading it gives, and leaves the other sections to be found. -/
theorem agree_takeSection (h : Left gone root left) {part : Part} (hpart : part.name ∉ gone) :
    Agree (fun members taken => taken.1 = members ∧ Left (part.name :: gone) root taken.2)
      (sectionOf root part) (takeSection part left) := by
  rw [takeSection, sectionOf_congr (h.lookup _ hpart)]
  cases sectionOf root part with
  | error e => exact .error e
  | ok members => exact .ok ⟨rfl, h.swapOut part.name⟩

/-- Take the sections of a document apart by taking one after another out of it. -/
def takeSections (root : Json.Members) : Except LoadError Document := do
  let graph ← graphOf Records.taken root
  let (globals, root) ← takeSection .globals (Json.swapOut Part.graph.name root)
  let (cameras, root) ← takeSection .cameras root
  let (textures, root) ← takeSection .textures root
  let (materials, _) ← takeSection .materials root
  return { globals, cameras, textures, materials, graph }

/-- Take a wrapper off by taking out what is in it. -/
def takeWrapper (root : Json.Members) : Json.Members :=
  if root.length = 1 then
    match root.lookup "yasf" with
    | some (.object inner) => inner
    | _ => Json.swapOut "yasf" root
  else root

/-- Take a JSON value apart as a document, by taking its sections out. -/
def takeValue : Json → Except LoadError Document
  | .object root => takeSections (takeWrapper root)
  | _ => .error (.notAnObject .document)

/-- Taking the sections out one after another gives the document that reading them gives. -/
theorem agree_takeSections (h : Left ["yasf"] root left)
    (hgraph : ∀ graph, root.lookup Part.graph.name = some (.object graph) →
      (Json.keys graph).Nodup) : Agree Alike (ofSections root) (takeSections left) := by
  have hrecords : Agree Records.Alike (graphOf Records.ofSection root)
      (graphOf Records.taken left) := by
    rw [graphOf, graphOf, h.lookup _ (by decide)]
    cases hfound : root.lookup Part.graph.name with
    | none => exact .error _
    | some value =>
        cases value with
        | object graph => exact Records.agree_taken (hgraph graph hfound)
        | null | bool | number | string | array => exact .error _
  rw [ofSections_eq, takeSections]
  refine hrecords.bind fun g g' hg => ?_
  refine (agree_takeSection (h.swapOut Part.graph.name) (by decide)).bind ?_
  rintro _ ⟨globals, left⟩ ⟨rfl, h⟩
  refine (agree_takeSection h (by decide)).bind ?_
  rintro _ ⟨cameras, left⟩ ⟨rfl, h⟩
  refine (agree_takeSection h (by decide)).bind ?_
  rintro _ ⟨textures, left⟩ ⟨rfl, h⟩
  refine (agree_takeSection h (by decide)).bind ?_
  rintro _ ⟨materials, left⟩ ⟨rfl, h⟩
  exact .ok ⟨rfl, rfl, rfl, rfl, hg⟩

/-- Taking a wrapper off leaves every member of what is in it. -/
theorem left_takeWrapper (h : (Json.object root).WellFormed) :
    Left ["yasf"] (unwrapped root) (takeWrapper root) := by
  have hkeys := nodup_keys_unwrapped h
  by_cases hwrapped : ∃ inner, root = [("yasf", .object inner)]
  · obtain ⟨inner, rfl⟩ := hwrapped
    exact ⟨hkeys, fun _ _ => rfl⟩
  · have hbare : ∀ inner, root ≠ [("yasf", .object inner)] := not_exists.mp hwrapped
    rw [unwrapped_of_bare hbare] at hkeys ⊢
    have hall : Left [] root root := ⟨hkeys, fun _ _ => rfl⟩
    unfold takeWrapper
    split
    next hone =>
      split
      next inner hinner =>
        obtain ⟨⟨key, value⟩, rfl⟩ := List.length_eq_one_iff.mp hone
        have hmem := List.mem_singleton.mp ((Json.lookup_eq_some_iff hkeys).mp hinner)
        exact absurd (congrArg (fun member => [member]) hmem.symm) (hbare inner)
      next => exact hall.swapOut "yasf"
    next => exact ⟨hkeys, fun _ _ => rfl⟩

/-- A well formed value comes to the same document whether its sections are read or taken out. -/
theorem agree_takeValue {v : Json} (hv : v.WellFormed) : Agree Alike (ofValue v) (takeValue v) := by
  cases v with
  | object root =>
      exact agree_takeSections (left_takeWrapper hv) fun graph hgraph =>
        nodup_keys_of_lookup (wellFormed_unwrapped hv) hgraph
  | null | bool | number | string | array => exact .error _

/-! ## The outcome -/

/-- The entries of a section that may be missing are those that are written for it, if any. -/
inductive Written : Option Json → Json.Members → Prop where
  | missing : Written none []
  | null : Written (some .null) []
  | object (members : Json.Members) : Written (some (.object members)) members

/-- What is in a document is what is written in its sections, in the same order.  Only the order
of the records is not kept, and of each record it is kept. -/
structure Kept (root : Json.Members) (d : Document) : Prop where
  globals : Written (root.lookup "globals") d.globals
  cameras : Written (root.lookup "cameras") d.cameras
  textures : Written (root.lookup "textures") d.textures
  materials : Written (root.lookup "materials") d.materials
  /-- Each record is found as it is written.  The root id is no record. -/
  records : ∃ graph, root.lookup "graph" = some (.object graph) ∧
    graph.lookup "rootid" = some (.string d.graph.rootId) ∧
    ∀ id, d.graph.record? id = if id = "rootid" then none else graph.lookup id
  /-- The children of a record are those that are written for it. -/
  children : ∀ id value r, d.graph.record? id = some value → NodeRecord.decode value = .ok r →
    (NodeRecord.writtenChildren value = none ∧ r.children = []) ∨
      NodeRecord.writtenChildren value = some (.object r.children)

/-- A section that is read is the one that is written. -/
theorem written_of_sectionOf {part : Part} {members : Json.Members}
    (h : sectionOf root part = .ok members) : Written (root.lookup part.name) members := by
  unfold sectionOf at h
  split at h
  next found => cases h; rw [found]; exact .object members
  next found => cases h; rw [found]; exact .null
  next found => cases h; rw [found]; exact .missing
  next => cases h

/-- A document has each of its sections in the order in which it is written. -/
theorem kept_of_ofSections {d : Document} (h : ofSections root = .ok d) : Kept root d := by
  obtain ⟨⟨graph, hgraph, hrecords⟩, hglobals, hcameras, htextures, hmaterials⟩ :=
    ofSections_eq_ok_iff.mp h
  obtain ⟨hroot, hentries⟩ := ofSection_eq_ok_iff.mp hrecords
  refine ⟨written_of_sectionOf hglobals, written_of_sectionOf hcameras,
    written_of_sectionOf htextures, written_of_sectionOf hmaterials,
    ⟨graph, hgraph, hroot, ?_⟩, fun _ _ _ _ hdecode => NodeRecord.children_of_decode hdecode⟩
  intro id
  rw [Records.record?, hentries]
  split
  next hid => rw [hid, Json.lookup_drop_self]
  next hid => exact Json.lookup_drop_of_ne hid graph

/-- A document does not depend on a wrapper around it, nor on the order of its members and of
its records. -/
structure OrderFree (v : Json) : Prop where
  /-- A value comes to the same in a wrapper, unless it is one itself. -/
  wrapper : ∀ root, v = .object root → (∀ inner, root ≠ [("yasf", .object inner)]) →
    ofValue (.object [("yasf", v)]) = ofValue v
  /-- In another order the members come to the same error or to the same sections. -/
  order : v.WellFormed → ∀ v', Reordered v v' → Agree Alike (ofValue v) (ofValue v')
  /-- Where order matters it is the one that is written. -/
  kept : ∀ root d, Sections v root → ofValue v = .ok d → Kept root d
  /-- Taking the sections out, one after another and the last member each time into the place
  that becomes free, comes to the same. -/
  taken : v.WellFormed → Agree Alike (ofValue v) (takeValue v)

/-- What a value comes to as a document depends neither on a wrapper around it nor on the order of
its members, and every order that matters is kept. -/
theorem orderFree (v : Json) : OrderFree v where
  wrapper := by
    rintro root rfl hbare
    exact ofValue_wrapper hbare
  order hv _ h := agree_of_reordered hv h
  kept root d hsections hd := by
    cases v with
    | object members =>
        obtain rfl := hsections.eq_unwrapped
        exact kept_of_ofSections hd
    | null | bool | number | string | array => cases hd
  taken := agree_takeValue

/-- A small document around a graph. -/
def small (graph : Json.Members) : Json.Members :=
  [("textures", .object [("wall", .null), ("floor", .null)])] ++ ("graph", .object graph) ::
    [("globals", .null)]

/-- The graph of a house, in the order in which one goes through it. -/
def house : Json.Members :=
  [("rootid", .string "hall"), ("hall", .object [("children", .object [])]), ("attic", .null)]

/-- A house backwards, in a document backwards, is the house: with and without a wrapper, and with
its sections taken out. -/
theorem orderFree_small :
    (Json.object (small house)).WellFormed ∧
      Reordered (.object (small house)) (.object (small house.reverse).reverse) ∧
      (∃ d, ofValue (.object (small house)) = .ok d ∧ d.graph.rootId = "hall" ∧
        Kept (small house) d) ∧
      ofValue (.object [("yasf", .object (small house))]) = ofValue (.object (small house)) ∧
      Agree Alike (ofValue (.object (small house)))
        (ofValue (.object (small house.reverse).reverse)) ∧
      Agree Alike (ofValue (.object (small house))) (takeValue (.object (small house))) := by
  have hleaves : ∀ keys : List String, keys.Nodup →
      (Json.object (keys.map fun key => (key, Json.null))).WellFormed := by
    intro keys hkeys
    refine .object (by simpa [Json.keys, Function.comp_def] using hkeys) ?_
    intro member hmember
    obtain ⟨key, -, rfl⟩ := List.mem_map.mp hmember
    exact .null
  have hhall : (Json.object [("children", .object [])]).WellFormed :=
    .object (by decide) (List.forall_mem_singleton.mpr (hleaves [] (by decide)))
  have hhouse : (Json.object house).WellFormed :=
    .object (by decide) (List.forall_mem_cons.mpr ⟨.string _, List.forall_mem_cons.mpr
      ⟨hhall, List.forall_mem_singleton.mpr .null⟩⟩)
  have hv : (Json.object (small house)).WellFormed :=
    .object (by decide) (List.forall_mem_cons.mpr ⟨hleaves ["wall", "floor"] (by decide),
      List.forall_mem_cons.mpr ⟨hhouse, List.forall_mem_singleton.mpr .null⟩⟩)
  have hreordered : Reordered (.object (small house)) (.object (small house.reverse).reverse) :=
    .bare (.both (.graph (List.reverse_perm _)) (.members (List.reverse_perm _)))
  have hbare : ∀ inner, small house ≠ [("yasf", .object inner)] := by
    intro inner h
    cases congrArg List.length h
  have hfree := orderFree (.object (small house))
  have hloaded : ∃ d, ofValue (.object (small house)) = .ok d ∧ d.graph.rootId = "hall" :=
    ⟨_, rfl, rfl⟩
  obtain ⟨d, hd, hroot⟩ := hloaded
  exact ⟨hv, hreordered, ⟨d, hd, hroot, hfree.kept _ d (.bare hbare) hd⟩,
    hfree.wrapper _ rfl hbare, hfree.order hv _ hreordered, hfree.taken hv⟩

end Document

end Scenery
