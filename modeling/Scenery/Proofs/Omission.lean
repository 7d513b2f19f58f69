import Scenery.Proofs.Load
import Scenery.Proofs.Omission.Graph

/-!
# Malformed entries leave no trace

A load goes on past an entry that does not convert.  What becomes of the rest is what would
become of it if the entry were not there at all: nothing is half registered, no good entry
gives way to it, and nothing that refers to it comes out differently
(`LoadedScene.ofText_leaveOut`).

All that an entry leaves is one problem.  The stages of a load are alike with it and without
it but for that problem, and only the stage that comes to the entry tells it, once.  A record
is come to if it is reached, and then it is told once however many nodes refer to it.
-/

namespace Scenery

/-! ## Stages one after another -/

/-- One stage after another, which may ask for what the first has made. -/
def andThen {β γ : Type} (f : Journal → β × Journal) (g : β → Journal → γ × Journal)
    (j : Journal) : (β × γ) × Journal :=
  let first := f j
  let second := g first.1 first.2
  ((first.1, second.1), second.2)

/-- Of two stages at most one may tell the problem. -/
theorem AlikeBut.andThen {β γ : Type} {problem : Diagnostic} {m n : Nat}
    {f f' : Journal → β × Journal} {g g' : β → Journal → γ × Journal}
    (hf : AlikeBut problem m f f') (hg : ∀ b, AlikeBut problem n (g b) (g' b)) (hle : m + n ≤ 1) :
    AlikeBut problem (m + n) (andThen f g) (andThen f' g') where
  result {j k} hjk := by
    unfold Scenery.andThen
    simp only [hf.result hjk, (hg _).result (hf.lacks hjk)]
  lacks {j k} hjk := by
    unfold Scenery.andThen
    simp only [hf.result hjk]
    exact (hg _).lacks (hf.lacks hjk)
  count j hj := by
    have hfirst : (f j).2.problems.count problem = j.problems.count problem + m :=
      hf.count j (hj.imp_right (by omega))
    have hsecond : problem ∉ (f j).2.problems ∨ n = 0 := by
      rcases hj with hnot | hzero
      · rw [← List.count_eq_zero, hfirst, List.count_eq_zero.mpr hnot]
        omega
      · exact Or.inr (by omega)
    unfold Scenery.andThen
    simp only
    rw [(hg _).count _ hsecond, hfirst, Nat.add_assoc]

/-- The sections of a document, read one after another. -/
def readAll (d : Document) (options : LoadOptions) : Journal →
    ((((Globals Float32 × CameraSet Float32) × TextureTable) × MaterialTable Float32) ×
      NodeDictionary Float32) × Journal :=
  andThen (andThen (andThen (andThen (Globals.ofSection d.globals)
    fun _ => CameraSet.ofSection d.cameras)
    fun _ => LoadedScene.readTextures d.textures options)
    fun read => MaterialTable.ofSection d.materials read.2)
    fun _ => NodeDictionary.ofRecords d.graph d.graph.rootId

namespace LoadedScene

variable {d : Document} {part : Part} {id : String} {e : Json.DecodeError}

theorem ofSections_eq (d : Document) (name : String) (options : LoadOptions) :
    ofSections d name options =
      let read := readAll d options .empty
      { name
        globals := read.1.1.1.1.1
        cameras := read.1.1.1.1.2
        catalog := ⟨read.1.2, read.1.1.2, read.1.1.1.2⟩
        rootId := d.graph.rootId
        defaultMaterial := options.defaultMaterial
        scene := .empty
        journal := read.2 } := rfl

/-- A scene is another but for one problem that it does not tell of the document. -/
structure Without (problem : Diagnostic) (s s' : LoadedScene) : Prop where
  /-- Whatever is loaded and shown is the same. -/
  same : s' = { s with journal := s'.journal }
  /-- So are all other problems, in their order. -/
  problems : s'.journal.problems = s.journal.problems.filter (· != problem)

/-- What is shown of a scene is shown of another that is the same but for a problem. -/
theorem Without.exists_rebuild? {problem : Diagnostic} {s s' t : LoadedScene}
    (h : Without problem s s') (ht : s.rebuild? = some t) :
    ∃ t', s'.rebuild? = some t' ∧ Without problem t t' ∧ t.journal = s.journal := by
  obtain ⟨scene, hscene, rfl⟩ := Option.map_eq_some_iff.mp ht
  have hscene' : s'.instantiate? = some scene := by
    rw [h.same]
    exact hscene
  refine ⟨{ s' with scene }, by rw [rebuild?, hscene']; rfl, ⟨?_, h.problems⟩, rfl⟩
  exact congrArg (fun other : LoadedScene => { other with scene }) h.same

/-- Whether a malformed entry is told. -/
def Told (d : Document) (part : Part) (id : String) : Prop :=
  part = .graph → d.graph.Reaches d.graph.rootId id

open Classical in
theorem alike_readAll (h : d.Malformed part id e) (hd : d.Distinct) (options : LoadOptions) :
    AlikeBut (.malformed part id e.message) (if Told d part id then 1 else 0) (readAll d options)
      (readAll (d.without part id) options) := by
  -- every entry is of one section, so one stage tells it at most
  have hsum : (((0 + if part = .cameras then 1 else 0) + if part = .textures then 1 else 0) +
      if part = .materials then 1 else 0) +
        (if part = .graph ∧ d.graph.Reaches d.graph.rootId id then 1 else 0) =
          if Told d part id then 1 else 0 := by
    cases h <;> simp [Told]
  have hone : (if Told d part id then 1 else 0) ≤ 1 := by split <;> omega
  unfold readAll
  rw [h.rootId_without, ← hsum]
  rw [← hsum] at hone
  refine .andThen (.andThen (.andThen (.andThen h.alike_globals (fun _ => h.alike_cameras hd) ?_)
    (fun _ => h.alike_textures hd options) ?_) (fun read => h.alike_materials hd read.2) ?_)
    (fun _ => h.alike_nodes hd) hone
  all_goals omega

/-- A malformed entry leaves one problem if it is told, and nothing if it is not. -/
theorem ofSections_without (h : d.Malformed part id e) (hd : d.Distinct) (name : String)
    (options : LoadOptions) :
    Without (.malformed part id e.message) (ofSections d name options)
      (ofSections (d.without part id) name options) := by
  classical
  have halike := alike_readAll h hd options
  have hempty : Journal.empty.Lacks (.malformed part id e.message) .empty := rfl
  constructor
  case same => simp only [ofSections_eq, halike.result hempty, h.rootId_without]
  case problems => exact halike.lacks hempty

theorem count_ofSections (h : d.Malformed part id e) (hd : d.Distinct) (name : String)
    (options : LoadOptions) :
    (Told d part id → (ofSections d name options).journal.problems.count
      (.malformed part id e.message) = 1) ∧
    (¬ Told d part id → (ofSections d name options).journal.problems.count
      (.malformed part id e.message) = 0) := by
  classical
  have hcount := (alike_readAll h hd options).count .empty (Or.inl (by simp))
  rw [Journal.problems_empty, List.count_nil, Nat.zero_add] at hcount
  constructor
  · intro htold
    rw [if_pos htold] at hcount
    exact hcount
  · intro hnot
    rw [if_neg hnot] at hcount
    exact hcount

/-- The root keeps its record. -/
theorem isSome_record?_without (h : d.Malformed part id e)
    (hroot : (d.graph.record? d.graph.rootId).isSome = true) :
    ((d.without part id).graph.record? (d.without part id).graph.rootId).isSome = true := by
  cases h with
  | camera | texture | material => exact hroot
  | record below entry error =>
      have hkept : (Json.drop id d.graph.entries).lookup d.graph.rootId =
          d.graph.entries.lookup d.graph.rootId := Json.lookup_drop_of_ne (Ne.symm below) _
      unfold Records.record? Document.without at *
      rw [hkept]
      exact hroot

/-- A malformed entry leaves no trace but the problem it tells.  Loading a document without
it gives the same, and the problem is there once if the entry is of a table or a camera or a
record that is reached, and not at all if it is a record that is not reached. -/
theorem ofText_leaveOut {text name : String} {options : LoadOptions} {v : Json} {s : LoadedScene}
    (hparse : Json.parse text = .ok v) (hload : ofText text name options = some (.ok s))
    (hd : Document.ofValue v = .ok d) (h : d.Malformed part id e) :
    ∃ s', ofRead (Document.ofValue (Document.leaveOut part id v)) name options = some (.ok s') ∧
      (∀ text', Json.parse text' = .ok (Document.leaveOut part id v) →
        ofText text' name options = some (.ok s')) ∧
      Without (.malformed part id e.message) s s' ∧
      ((part = .graph → d.graph.Reaches d.graph.rootId id) →
        s.journal.problems.count (.malformed part id e.message) = 1) ∧
      (part = .graph → ¬ d.graph.Reaches d.graph.rootId id →
        s.journal.problems.count (.malformed part id e.message) = 0) := by
  have hdistinct := Document.distinct_of_wellFormed (Json.wellFormed_of_parse hparse) hd
  rw [ofText_of_parse hparse, hd] at hload
  obtain ⟨hroot, hbuilt⟩ := ofDocument_eq_ok_iff.mp hload
  obtain ⟨s', hbuilt', hwithout, hjournal⟩ :=
    (ofSections_without h hdistinct name options).exists_rebuild? hbuilt
  have hleft : ofRead (Document.ofValue (Document.leaveOut part id v)) name options =
      some (.ok s') := by
    rw [Document.ofValue_leaveOut hd h]
    exact ofDocument_eq_ok_iff.mpr ⟨isSome_record?_without h hroot, hbuilt'⟩
  obtain ⟨honce, hnever⟩ := count_ofSections h hdistinct name options
  rw [← hjournal] at honce hnever
  refine ⟨s', hleft, fun text' hparse' => ?_, hwithout, honce,
    fun hpart hnot => hnever fun htold => hnot (htold hpart)⟩
  rw [ofText_of_parse hparse', hleft]

/-- Two records, of which one does not convert and the other refers to it twice. -/
def spoiled : Records :=
  ⟨"a", [("b", .bool true), ("a", .object [("children",
    .object [(NodeRecord.idsKey, .array [.string "b", .string "a", .string "b"])])])]⟩

/-- A document with those records and nothing else. -/
def spoiledDocument : Json :=
  .object [("graph", .object ((Records.rootKey, .string spoiled.rootId) :: spoiled.entries))]

theorem not_stops_spoiled : ¬ spoiled.Stops "a" := by
  apply Records.not_stops
  intro entry hentry r hr child hchild
  obtain rfl | hentry := List.mem_cons.mp hentry
  · cases hr
  · obtain rfl := List.mem_singleton.mp hentry
    cases hr
    obtain rfl := List.mem_singleton.mp hchild
    rfl

theorem ofText_spoiled :
    ∃ s s', ofText spoiledDocument.compact "spoiled" .usual = some (.ok s) ∧
      ofText (Document.leaveOut .graph "b" spoiledDocument).compact "spoiled" .usual =
        some (.ok s') ∧
      Without (.malformed .graph "b" "invalid type: boolean `true`, expected struct RawNode") s s' ∧
      s.journal.problems.count (.malformed .graph "b"
        "invalid type: boolean `true`, expected struct RawNode") = 1 := by
  have hparse : Json.parse spoiledDocument.compact = .ok spoiledDocument := by cbv
  have hparse' : Json.parse (Document.leaveOut .graph "b" spoiledDocument).compact =
      .ok (Document.leaveOut .graph "b" spoiledDocument) := by cbv
  have hd : Document.ofValue spoiledDocument = .ok ⟨[], [], [], [], spoiled⟩ := rfl
  obtain ⟨s, hs⟩ : ∃ s, ofDocument ⟨[], [], [], [], spoiled⟩ "spoiled" .usual = some (.ok s) :=
    exists_ofDocument rfl not_stops_spoiled "spoiled" .usual
  have hload : ofText spoiledDocument.compact "spoiled" .usual = some (.ok s) := by
    rw [ofText_of_parse hparse, hd]
    exact hs
  have hbad : Document.Malformed ⟨[], [], [], [], spoiled⟩ .graph "b"
      (.wrongKind (.bool true) "struct RawNode") :=
    .record (by decide) (List.mem_cons_self ..) rfl
  have hreach : spoiled.Reaches "a" "b" :=
    ⟨1, .child .root rfl ⟨_, rfl, List.mem_cons_self ..⟩⟩
  obtain ⟨s', -, htext, hwithout, honce, -⟩ := ofText_leaveOut hparse hload hd hbad
  exact ⟨s, s', hload, htext _ hparse', hwithout, honce fun _ => hreach⟩

end LoadedScene

end Scenery
