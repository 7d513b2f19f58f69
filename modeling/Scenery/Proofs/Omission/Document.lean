import Scenery.Proofs.Document
import Scenery.Proofs.Json.Keys

/-!
# Leaving an entry out of a document

`Document.leaveOut` takes one entry out of one section of a value and leaves everything else
in its place, the wrapper included.  That is the same as taking the entry out of the document
once it has been taken apart (`Document.ofValue_leaveOut`).

The root id must stay where it is: the key that names it stands among the records, and it is
the only member of a section that is no entry.

An entry is malformed if it does not convert to what its section declares
(`Document.Malformed`).  The camera to start with is named and not declared, so it is never
malformed, and without a record of the root nothing can be loaded, so that record is not
among the entries that could be left out.
-/

namespace Scenery

/-- A value without the member of a key. -/
def Json.without (key : String) : Json → Json
  | .object members => .object (drop key members)
  | other => other

namespace Document

/-! ## Values -/

/-- Sections without an entry of one of them. -/
def leaveOutIn (part : Part) (id : String) (root : Json.Members) : Json.Members :=
  root.map fun member =>
    (member.1, if member.1 = part.name then member.2.without id else member.2)

/-- A value without an entry of a section, in a wrapper or not. -/
def leaveOut (part : Part) (id : String) : Json → Json
  | .object [("yasf", .object inner)] => .object [("yasf", .object (leaveOutIn part id inner))]
  | .object root => .object (leaveOutIn part id root)
  | other => other

variable {part : Part} {id : String} {root : Json.Members} {d : Document}

theorem name_ne_wrapper (part : Part) : part.name ≠ "yasf" := by
  cases part <;> decide

theorem name_injective {p q : Part} (h : p.name = q.name) : p = q := by
  revert h
  cases p <;> cases q <;> decide

theorem lookup_leaveOutIn (part : Part) (id : String) (root : Json.Members) (key : String) :
    (leaveOutIn part id root).lookup key =
      if key = part.name then (root.lookup key).map (Json.without id) else root.lookup key := by
  unfold leaveOutIn
  induction root with
  | nil => simp
  | cons member rest ih =>
      obtain ⟨k, v⟩ := member
      by_cases hk : key = k
      · subst hk
        by_cases hpart : key = part.name <;> simp [hpart]
      · have hne : (key == k) = false := beq_false_of_ne hk
        rw [List.map_cons, List.lookup_cons, List.lookup_cons]
        simp only [hne]
        exact ih

/-- A member that holds an entry to leave out has not the key of a wrapper. -/
theorem leaveOutIn_ne_wrapper (h : ∀ inner, root ≠ [("yasf", .object inner)])
    (inner : Json.Members) : leaveOutIn part id root ≠ [("yasf", .object inner)] := by
  intro heq
  obtain ⟨⟨key, value⟩, rfl, hmember⟩ := List.map_eq_singleton_iff.mp heq
  obtain ⟨rfl, hvalue⟩ := Prod.mk.inj hmember
  simp only [(name_ne_wrapper part).symm, if_false] at hvalue
  exact h inner (by rw [hvalue])

/-- An entry is left out of what is in the wrapper, and the wrapper stays. -/
theorem leaveOut_object (part : Part) (id : String) (root : Json.Members) :
    ∃ left, leaveOut part id (.object root) = .object left ∧
      unwrapped left = leaveOutIn part id (unwrapped root) := by
  unfold leaveOut
  split
  next inner heq =>
    obtain rfl := Json.object.inj heq
    exact ⟨_, rfl, rfl⟩
  next other hbare heq =>
    obtain rfl := Json.object.inj heq
    have hroot : ∀ inner, root ≠ [("yasf", .object inner)] := fun inner h => hbare inner (h ▸ rfl)
    refine ⟨_, rfl, ?_⟩
    rw [← (Sections.bare (leaveOutIn_ne_wrapper hroot)).eq_unwrapped,
      ← (Sections.bare hroot).eq_unwrapped]
  next h => exact absurd rfl (h root)

theorem sectionOf_leaveOutIn (part : Part) (id : String) (root : Json.Members) (other : Part) :
    sectionOf (leaveOutIn part id root) other =
      if other = part then (sectionOf root other).map (Json.drop id) else sectionOf root other := by
  unfold sectionOf
  rw [lookup_leaveOutIn]
  by_cases h : other = part
  · subst h
    rw [if_pos rfl, if_pos rfl]
    cases root.lookup other.name with
    | none => rfl
    | some value => cases value <;> rfl
  · rw [if_neg h, if_neg (mt name_injective h)]

/-! ## Documents -/

/-- A document without an entry of a section. -/
def without (d : Document) (part : Part) (id : String) : Document :=
  match part with
  | .cameras => { d with cameras := Json.drop id d.cameras }
  | .textures => { d with textures := Json.drop id d.textures }
  | .materials => { d with materials := Json.drop id d.materials }
  | .graph => { d with graph := { d.graph with entries := Json.drop id d.graph.entries } }
  | .document | .globals => d

/-- An entry of a section does not convert to what the section declares. -/
inductive Malformed (d : Document) : Part → String → Json.DecodeError → Prop where
  | camera {id : String} {value : Json} {e : Json.DecodeError} (named : id ≠ CameraSet.initialKey)
      (entry : (id, value) ∈ d.cameras) (error : Camera.decode value = .error e) :
      Malformed d .cameras id e
  | texture {id : String} {value : Json} {e : Json.DecodeError} (entry : (id, value) ∈ d.textures)
      (error : TextureTable.Declaration.decode value = .error e) : Malformed d .textures id e
  | material {id : String} {value : Json} {e : Json.DecodeError} (entry : (id, value) ∈ d.materials)
      (error : MaterialTable.Declaration.decode value = .error e) : Malformed d .materials id e
  | record {id : String} {value : Json} {e : Json.DecodeError} (below : id ≠ d.graph.rootId)
      (entry : (id, value) ∈ d.graph.entries) (error : NodeRecord.decode value = .error e) :
      Malformed d .graph id e

/-- No section has two entries of one key. -/
structure Distinct (d : Document) : Prop where
  cameras : (Json.keys d.cameras).Nodup
  textures : (Json.keys d.textures).Nodup
  materials : (Json.keys d.materials).Nodup
  records : (Json.keys d.graph.entries).Nodup

variable {v : Json} {e : Json.DecodeError}

theorem nodup_keys_of_lookup {key : String} {members : Json.Members}
    (h : ∀ member ∈ root, member.2.WellFormed) (hkey : root.lookup key = some (.object members)) :
    (Json.keys members).Nodup := by
  obtain ⟨before, after, rfl, -⟩ := List.lookup_eq_some_iff.mp hkey
  cases h (key, .object members) (by simp) with
  | object distinct => exact distinct

theorem nodup_keys_sectionOf {members : Json.Members} (h : ∀ member ∈ root, member.2.WellFormed)
    (hsection : sectionOf root part = .ok members) : (Json.keys members).Nodup := by
  unfold sectionOf at hsection
  split at hsection
  next heq => cases hsection; exact nodup_keys_of_lookup h heq
  next => cases hsection; exact List.nodup_nil
  next => cases hsection; exact List.nodup_nil
  next => cases hsection

theorem wellFormed_unwrapped (h : (Json.object root).WellFormed) :
    ∀ member ∈ unwrapped root, member.2.WellFormed := by
  cases h with
  | object _ hroot =>
      unfold unwrapped
      split
      next inner =>
        cases hroot _ (List.mem_singleton_self _) with
        | object _ hinner => exact hinner
      next => exact hroot

/-- In a document that was read keys differ. -/
theorem distinct_of_wellFormed (hv : v.WellFormed) (h : ofValue v = .ok d) : d.Distinct := by
  cases v with
  | object root =>
      obtain ⟨⟨graph, hgraph, hrecords⟩, -, hcameras, htextures, hmaterials⟩ :=
        ofSections_eq_ok_iff.mp h
      have hmembers := wellFormed_unwrapped hv
      constructor
      case cameras => exact nodup_keys_sectionOf hmembers hcameras
      case textures => exact nodup_keys_sectionOf hmembers htextures
      case materials => exact nodup_keys_sectionOf hmembers hmaterials
      case records =>
        have hnodup := nodup_keys_of_lookup hmembers hgraph
        rw [(ofSection_eq_ok_iff.mp hrecords).2]
        exact hnodup.sublist (List.filter_sublist.map _)
  | null | bool | number | string | array => cases h

theorem Malformed.ne_rootKey (h : d.Malformed .graph id e) (hd : ofValue v = .ok d) :
    id ≠ "rootid" := by
  cases v with
  | object root =>
      obtain ⟨⟨graph, -, hrecords⟩, -⟩ := ofSections_eq_ok_iff.mp hd
      cases h with
      | record _ entry _ =>
          rw [(ofSection_eq_ok_iff.mp hrecords).2] at entry
          simpa using (List.mem_filter.mp entry).2
  | null | bool | number | string | array => cases hd

theorem Malformed.rootId_without (h : d.Malformed part id e) :
    (d.without part id).graph.rootId = d.graph.rootId := by
  cases h <;> rfl

/-- The root id is no record, so it stays when a record is left out. -/
theorem ofSection_drop {graph : Json.Members} {g : Records} (h : Records.ofSection graph = .ok g)
    (hid : id ≠ "rootid") :
    Records.ofSection (Json.drop id graph) = .ok { g with entries := Json.drop id g.entries } := by
  obtain ⟨hroot, hentries⟩ := ofSection_eq_ok_iff.mp h
  rw [ofSection_eq_ok_iff]
  refine ⟨?_, ?_⟩
  · rw [Json.lookup_drop_of_ne hid.symm]
    exact hroot
  · simp only [hentries, Json.drop, List.filter_filter, Bool.and_comm]

/-- An entry is left out of a value and of the document it makes alike. -/
theorem ofValue_leaveOut (hd : ofValue v = .ok d) (h : d.Malformed part id e) :
    ofValue (leaveOut part id v) = .ok (d.without part id) := by
  cases v with
  | object root =>
      obtain ⟨left, hleft, hunwrapped⟩ := leaveOut_object part id root
      obtain ⟨⟨graph, hgraph, hrecords⟩, hglobals, hcameras, htextures, hmaterials⟩ :=
        ofSections_eq_ok_iff.mp hd
      rw [hleft]
      change ofSections (unwrapped left) = _
      rw [hunwrapped, ofSections_eq_ok_iff]
      simp only [sectionOf_leaveOutIn, lookup_leaveOutIn, hgraph, hglobals, hcameras, htextures,
        hmaterials]
      cases h with
      | camera | texture | material => exact ⟨⟨graph, rfl, hrecords⟩, rfl, rfl, rfl, rfl⟩
      | record below entry error =>
          have hid := (Malformed.record below entry error).ne_rootKey hd
          exact ⟨⟨_, rfl, ofSection_drop hrecords hid⟩, rfl, rfl, rfl, rfl⟩
  | null | bool | number | string | array => cases hd

end Document

end Scenery
