import Scenery.Proofs.Load

/-!
# What becomes of a text

A text that reads as a value comes to one of three things.  It is refused with an error for the
first of the faults of the value, and the sections alone decide about that.  If there is no fault,
the value is loadable, and then there is a scene unless the program stops
(`LoadedScene.Settles`).

The program stops if a record that is reached from the root comes to a patch of the greatest
degrees, whose number of control points is no word of 64 bits (`Records.Stops`).  So what stands
in a record can keep a loadable document from being loaded (`LoadedScene.ofText_overfull`), and
this is the only way in which it can.
-/

namespace Scenery

namespace Document

/-- The records of a value stop the program. -/
def Stops (v : Json) : Prop := ∃ d, ofValue v = .ok d ∧ d.graph.Stops d.graph.rootId

end Document

namespace LoadedScene

open Document

variable {v : Json} {text name : String} {options : LoadOptions}

/-- What becomes of a value. -/
structure Settles (v : Json) (outcome : Option (Except LoadError LoadedScene)) : Prop where
  /-- There is a scene if the value is loadable and its records do not stop the program. -/
  loaded : (∃ s, outcome = some (.ok s)) ↔ Loadable v ∧ ¬ Stops v
  /-- There is an error if that is the first of its faults, whatever stands in its records. -/
  refused : ∀ e, outcome = some (.error e) ↔ FirstFault v e
  /-- There is neither if the value is loadable and its records stop the program. -/
  stopped : outcome = none ↔ Loadable v ∧ Stops v

/-- A loadable value is loaded unless its records stop the program. -/
theorem settles_of_loadable (hloadable : Loadable v) {d : Document} (hd : ofValue v = .ok d)
    (hrecord : (d.graph.record? d.graph.rootId).isSome = true) :
    Settles v (ofRead (ofValue v) name options) := by
  have hstops : Stops v ↔ d.graph.Stops d.graph.rootId := by
    simp only [Stops, hd, Except.ok.injEq, exists_eq_left']
  have hrefused : ∀ e, ¬ FirstFault v e := fun e hfirst => hloadable.not_fault hfirst.1
  have hread : ofRead (ofValue v) name options = ofDocument d name options := by rw [hd]; rfl
  rw [hread]
  by_cases hs : d.graph.Stops d.graph.rootId
  · have hnone : ofDocument d name options = none := ofDocument_eq_none_iff.mpr ⟨hrecord, hs⟩
    rw [hnone]
    exact ⟨iff_of_false (fun ⟨_, h⟩ => by cases h) fun h => h.2 (hstops.mpr hs),
      fun e => iff_of_false (fun h => by cases h) (hrefused e),
      iff_of_true rfl ⟨hloadable, hstops.mpr hs⟩⟩
  · obtain ⟨s, hbuilt⟩ := exists_ofDocument hrecord hs name options
    rw [hbuilt]
    exact ⟨iff_of_true ⟨s, rfl⟩ ⟨hloadable, mt hstops.mp hs⟩,
      fun e => iff_of_false (fun h => by cases h) (hrefused e),
      iff_of_false (fun h => by cases h) fun h => hs (hstops.mp h.2)⟩

/-- A text that reads as a value is loaded if the value is loadable and the program does not stop
at its records, and is refused with an error if that is the first of its faults.  The program stops
if the value is loadable and its records make it stop. -/
theorem ofText_outcome (h : Json.parse text = .ok v) (name : String) (options : LoadOptions) :
    Settles v (ofText text name options) := by
  rw [ofText_of_parse h]
  rcases ofValue_outcome v name options with ⟨hloadable, d, hd, hrecord⟩ | ⟨e, he, hfirst⟩
  · exact settles_of_loadable hloadable hd hrecord
  · have hnot : ¬ Loadable v := fun hloadable => hloadable.not_fault hfirst.1
    rw [he]
    constructor
    case loaded => exact iff_of_false (fun ⟨_, h⟩ => by cases h) fun h => hnot h.1
    case stopped => exact iff_of_false (fun h => by cases h) fun h => hnot h.1
    case refused =>
      intro other
      constructor
      · intro hother
        cases hother
        exact hfirst
      · intro hother
        rw [hfirst.unique hother]

/-- A wrapped document with three faults: the graph has no record of its root, and two
sections are no objects. -/
def threeFaults : Json :=
  .object [("yasf", .object [("materials", .bool true), ("cameras", .array []),
    ("graph", .object [("rootid", .string "rootid")])])]

/-- A document with three faults fails with the one that is looked for first. -/
theorem ofText_threeFaults :
    Json.parse threeFaults.compact = .ok threeFaults ∧
      Settles threeFaults (ofText threeFaults.compact "faulty" .usual) ∧
      FirstFault threeFaults (.notAnObject .cameras) := by
  have hparse : Json.parse threeFaults.compact = .ok threeFaults := by cbv
  have hsettles := ofText_outcome hparse "faulty" .usual
  have hrefused : ofText threeFaults.compact "faulty" .usual =
      some (.error (.notAnObject .cameras)) := by
    rw [ofText_of_parse hparse]
    rfl
  exact ⟨hparse, hsettles, (hsettles.refused _).mp hrefused⟩

/-- The declaration of a patch of the greatest degrees, without control points. -/
def overfullPatch : Json :=
  .object [("type", .string "nurbs"), ("degree_u", .number (.integer 0xFFFFFFFF)),
    ("degree_v", .number (.integer 0xFFFFFFFF)), ("parts_u", .number (.integer 1)),
    ("parts_v", .number (.integer 1)), ("controlpoints", .array [])]

/-- One record with that geometry. -/
def overfull : Records :=
  ⟨"r", [("r", .object [("children", .object [("n", overfullPatch)])])]⟩

/-- A document with that record and nothing else. -/
def overfullDocument : Json :=
  .object [("graph", .object ((Records.rootKey, .string overfull.rootId) :: overfull.entries))]

/-- The one node of the document stops the program. -/
theorem stops_overfull : overfull.Stops "r" := by
  have hpatch : Geometry.ofDeclaration overfullPatch =
      .ok (.figure (.nurbs ⟨0xFFFFFFFF, 0xFFFFFFFF, 1, 1, []⟩)) := by
    have htag : Text.lowerLatin "nurbs" = "nurbs" := by decide +kernel
    have hread : (overfullPatch.get? "type").bind Json.text? = some "nurbs" := rfl
    simp only [Geometry.ofDeclaration, hread, htag]
    rfl
  have hlast : NodeRecord.LastDeclared [("n", overfullPatch)]
      (.figure (.nurbs ⟨0xFFFFFFFF, 0xFFFFFFFF, 1, 1, []⟩)) :=
    ⟨[], _, [], rfl, ⟨by decide, hpatch⟩, fun _ hother => absurd hother List.not_mem_nil⟩
  exact ⟨"r", _, _, ⟨0, .root⟩, rfl, hlast, by decide, by decide, by decide, by decide, by decide⟩

/-- Nothing is wrong with the sections of the document, and it is not loaded. -/
theorem ofText_overfull :
    Json.parse overfullDocument.compact = .ok overfullDocument ∧ Loadable overfullDocument ∧
      ofText overfullDocument.compact "doc" .usual = none := by
  have hparse : Json.parse overfullDocument.compact = .ok overfullDocument := by cbv
  have hd : ofValue overfullDocument = .ok ⟨[], [], [], [], overfull⟩ := rfl
  have hother : ∀ part ∈ optionalParts, (part.name == "graph") = false := by decide
  refine ⟨hparse, loadable_object_iff.mpr ⟨_, "r", _, rfl, rfl, by decide, rfl, ?_⟩, ?_⟩
  · intro part hpart
    change Optional (List.lookup part.name [("graph", _)])
    rw [List.lookup_cons, hother part hpart]
    exact .missing
  · rw [ofText_of_parse hparse, hd]
    exact ofDocument_eq_none_iff.mpr ⟨rfl, stops_overfull⟩

end LoadedScene

end Scenery
