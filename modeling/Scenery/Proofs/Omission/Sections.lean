import Scenery.Proofs.Omission.Document

/-!
# Sections without a malformed entry

Reading a section goes from entry to entry with two things in hand, what was made so far and
the journal.  Neither looks at the other: what an entry does to the first depends on nothing
that was told, and what it tells depends on nothing that came before (`Telling`).

So two loads can be followed side by side.  `AlikeBut` says of two stages of them that they
come to the same whatever was told before, and that the journals remain the same but for one
problem, which the first stage tells a number of times and the second does not.

An entry that does not convert leaves what was made as it is and tells one thing.  Since keys
differ, no other entry tells the same.  So a section and the section without that entry are
alike but for one problem told once (`Telling.alike_drop`), and reading any other section
twice makes no difference (`Telling.alike`).
-/

namespace Scenery

/-! ## Two loads side by side -/

/-- The problems of a journal are those of another without one. -/
def Journal.Lacks (problem : Diagnostic) (j k : Journal) : Prop :=
  k.problems = j.problems.filter (· != problem)

theorem Journal.filter_of_not_mem {problem : Diagnostic} {told : List Diagnostic}
    (h : problem ∉ told) : told.filter (· != problem) = told :=
  List.filter_eq_self.mpr fun _ hd => bne_iff_ne.mpr fun he => h (he ▸ hd)

/-- Two stages make the same, and the first tells a problem a number of times that the second
does not tell.  A stage that would tell it once at most need not start with it told. -/
structure AlikeBut {β : Type} (problem : Diagnostic) (times : Nat) (f g : Journal → β × Journal) :
    Prop where
  result : ∀ {j k}, j.Lacks problem k → (g k).1 = (f j).1
  lacks : ∀ {j k}, j.Lacks problem k → (f j).2.Lacks problem (g k).2
  count : ∀ j, problem ∉ j.problems ∨ times = 0 →
    (f j).2.problems.count problem = j.problems.count problem + times

namespace AlikeBut

variable {β : Type} {problem : Diagnostic} {times : Nat} {f g : Journal → β × Journal}

/-- Stages that always tell the same add it to what was told. -/
theorem of_told {a : β} {told left : List Diagnostic} (hf : ∀ j, (f j).1 = a)
    (hf' : ∀ j, (f j).2.problems = j.problems ++ told) (hg : ∀ j, (g j).1 = a)
    (hg' : ∀ j, (g j).2.problems = j.problems ++ left)
    (hleft : left = told.filter (· != problem)) (htimes : told.count problem = times) :
    AlikeBut problem times f g where
  result _ := by rw [hf, hg]
  lacks h := by
    unfold Journal.Lacks at h ⊢
    rw [hf', hg', h, hleft, List.filter_append]
  count j _ := by rw [hf', List.count_append, htimes]

/-- Notes make no difference. -/
theorem congr {f' g' : Journal → β × Journal} (h : AlikeBut problem times f g)
    (hf : ∀ j, (f' j).1 = (f j).1 ∧ (f' j).2.problems = (f j).2.problems)
    (hg : ∀ j, (g' j).1 = (g j).1 ∧ (g' j).2.problems = (g j).2.problems) :
    AlikeBut problem times f' g' where
  result {j k} hjk := by rw [(hf j).1, (hg k).1, h.result hjk]
  lacks {j k} hjk := by
    unfold Journal.Lacks
    rw [(hf j).2, (hg k).2]
    exact h.lacks hjk
  count j hj := by rw [(hf j).2, h.count j hj]

end AlikeBut

/-! ## Sections, entry by entry -/

/-- The members of an object whose keys differ, around one of them. -/
theorem Json.exists_drop_eq {ms : Json.Members} {key : String} {v : Json} (h : (Json.keys ms).Nodup)
    (hmem : (key, v) ∈ ms) : ∃ before after, ms = before ++ (key, v) :: after ∧
      Json.drop key ms = before ++ after ∧ ∀ member ∈ before ++ after, member.1 ≠ key := by
  obtain ⟨before, after, rfl⟩ := List.append_of_mem hmem
  have hother : ∀ member ∈ before ++ after, member.1 ≠ key := by
    intro member hmember he
    rw [Json.keys, List.map_append, List.map_cons] at h
    obtain ⟨-, hafter, hbefore⟩ := List.nodup_append.mp h
    rcases List.mem_append.mp hmember with hm | hm
    · exact hbefore member.1 (List.mem_map_of_mem hm) key (List.mem_cons_self ..) he
    · exact (List.nodup_cons.mp hafter).1 (List.mem_map.mpr ⟨member, hm, he⟩)
  refine ⟨before, after, rfl, ?_, hother⟩
  have hkept : (before ++ after).filter (fun member => member.1 != key) = before ++ after :=
    List.filter_eq_self.mpr fun member hmember => bne_iff_ne.mpr (hother member hmember)
  rw [Json.drop, List.filter_append, List.filter_cons_of_neg (by simp), ← List.filter_append, hkept]

/-- A step from entry to entry of a section makes something and tells something, each on its
own.  Of an entry that does not convert only its own step tells. -/
structure Telling {β : Type} (part : Part) (step : β × Journal → String × Json → β × Journal)
    (told : String × Json → List Diagnostic) : Prop where
  result : ∀ b j k entry, (step (b, j) entry).1 = (step (b, k) entry).1
  problems : ∀ b j entry, (step (b, j) entry).2.problems = j.problems ++ told entry
  own : ∀ entry other id message, .malformed other id message ∈ told entry →
    other = part ∧ id = entry.1

namespace Telling

variable {β : Type} {part : Part} {step : β × Journal → String × Json → β × Journal}
  {told : String × Json → List Diagnostic} {entries : Json.Members} {problem : Diagnostic}

/-- What a section is read to does not depend on the journal. -/
theorem foldl_result (h : Telling part step told) (entries : Json.Members) (b : β)
    (j k : Journal) : (entries.foldl step (b, j)).1 = (entries.foldl step (b, k)).1 := by
  induction entries generalizing b j k with
  | nil => rfl
  | cons entry rest ih =>
      rw [List.foldl_cons, List.foldl_cons, ← Prod.mk.eta (p := step (b, j) entry),
        ← Prod.mk.eta (p := step (b, k) entry), h.result b j k entry]
      exact ih _ _ _

/-- A section tells what each of its entries tells, after what was told before. -/
theorem foldl_problems (h : Telling part step told) (entries : Json.Members) (b : β)
    (j : Journal) :
    (entries.foldl step (b, j)).2.problems = j.problems ++ entries.flatMap told := by
  induction entries generalizing b j with
  | nil => simp
  | cons entry rest ih =>
      rw [List.foldl_cons, ← Prod.mk.eta (p := step (b, j) entry), ih, h.problems,
        List.flatMap_cons, List.append_assoc]

/-- An entry that makes nothing makes no difference to the result. -/
theorem foldl_result_omit (h : Telling part step told) {entry : String × Json}
    (hmake : ∀ b j, (step (b, j) entry).1 = b) (start : β) (before after : Json.Members)
    (j k : Journal) : ((before ++ entry :: after).foldl step (start, j)).1 =
      ((before ++ after).foldl step (start, k)).1 := by
  rw [List.foldl_append, List.foldl_cons, List.foldl_append,
    ← Prod.mk.eta (p := before.foldl step (start, j)), ← Prod.mk.eta (p := step _ entry), hmake,
    h.foldl_result before start j k]
  exact h.foldl_result after _ _ _

/-- Reading a section twice makes no difference for what it does not tell. -/
theorem alike (h : Telling part step told) (start : β) (entries : Json.Members)
    (hnever : ∀ entry ∈ entries, problem ∉ told entry) :
    AlikeBut problem 0 (fun j => entries.foldl step (start, j))
      (fun j => entries.foldl step (start, j)) := by
  have htold : problem ∉ entries.flatMap told := by simpa using hnever
  exact .of_told (a := (entries.foldl step (start, .empty)).1)
    (fun j => h.foldl_result entries start j _) (fun j => h.foldl_problems entries start j)
    (fun j => h.foldl_result entries start j _) (fun j => h.foldl_problems entries start j)
    (Journal.filter_of_not_mem htold).symm (List.count_eq_zero.mpr htold)

/-- Reading a section without an entry that makes nothing. -/
theorem alike_drop {id message : String} {value : Json} (h : Telling part step told)
    (start : β) (hkeys : (Json.keys entries).Nodup) (hmem : (id, value) ∈ entries)
    (hmake : ∀ b j, (step (b, j) (id, value)).1 = b)
    (htold : told (id, value) = [.malformed part id message]) :
    AlikeBut (.malformed part id message) 1 (fun j => entries.foldl step (start, j))
      (fun j => (Json.drop id entries).foldl step (start, j)) := by
  obtain ⟨before, after, rfl, hdrop, hother⟩ := Json.exists_drop_eq hkeys hmem
  rw [hdrop]
  have hrest : .malformed part id message ∉ (before ++ after).flatMap told := by
    rw [List.mem_flatMap]
    rintro ⟨entry, hentry, hin⟩
    exact hother entry hentry (h.own entry _ _ _ hin).2.symm
  have hall : (before ++ (id, value) :: after).flatMap told =
      before.flatMap told ++ .malformed part id message :: after.flatMap told := by
    rw [List.flatMap_append, List.flatMap_cons, htold, List.singleton_append]
  rw [List.flatMap_append] at hrest
  refine .of_told (a := ((before ++ after).foldl step (start, .empty)).1)
    (fun j => h.foldl_result_omit hmake start before after j .empty)
    (fun j => h.foldl_problems _ start j) (fun j => h.foldl_result _ start j _)
    (fun j => h.foldl_problems _ start j) ?_ ?_
  · rw [hall, List.flatMap_append, List.filter_append, List.filter_cons_of_neg (by simp),
      ← List.filter_append, Journal.filter_of_not_mem hrest]
  · rw [hall, List.count_append, List.count_cons_self, ← Nat.add_assoc, ← List.count_append,
      List.count_eq_zero.mpr hrest]

/-- Reading another section makes no difference for an entry of this one. -/
theorem alike_other {other : Part} {id message : String} (h : Telling part step told)
    (hother : other ≠ part) (start : β) (entries : Json.Members) :
    AlikeBut (.malformed other id message) 0 (fun j => entries.foldl step (start, j))
      (fun j => entries.foldl step (start, j)) :=
  h.alike start entries fun entry _ hin => hother (h.own entry _ _ _ hin).1

end Telling

/-! ## The sections of a document -/

/-- What is told of a camera. -/
def CameraSet.told (entry : String × Json) : List Diagnostic :=
  if entry.1 = initialKey then []
  else
    match Camera.decode entry.2 with
    | .ok _ => []
    | .error e => [.malformed .cameras entry.1 e.message]

/-- An entry of the cameras tells at most that it is malformed. -/
theorem CameraSet.telling : Telling .cameras addEntry told where
  result b j k entry := by
    unfold addEntry
    split
    next => rfl
    next => cases CameraSet.entry entry <;> rfl
  problems b j entry := by
    unfold addEntry told CameraSet.entry
    split
    next => simp
    next => cases Camera.decode entry.2 <;> simp
  own entry other id message h := by
    unfold told at h
    split at h
    next => cases h
    next =>
      split at h
      next => cases h
      next =>
        cases List.mem_singleton.mp h
        exact ⟨rfl, rfl⟩

/-- What is told of a texture. -/
def TextureTable.told (entry : String × Json) : List Diagnostic :=
  match Declaration.decode entry.2 with
  | .ok _ => []
  | .error e => [.malformed .textures entry.1 e.message]

/-- An entry of the textures tells at most that it is malformed. -/
theorem TextureTable.telling (base : Option String) : Telling .textures (addEntry base) told where
  result b j k entry := by
    unfold addEntry
    cases Declaration.decode entry.2 <;> rfl
  problems b j entry := by
    unfold addEntry told
    cases Declaration.decode entry.2 <;> simp
  own entry other id message h := by
    unfold told at h
    split at h
    next => cases h
    next =>
      cases List.mem_singleton.mp h
      exact ⟨rfl, rfl⟩

theorem Journal.problems_foldl_add (told : List Diagnostic) (j : Journal) :
    (told.foldl add j).problems = j.problems ++ told := by
  induction told generalizing j with
  | nil => simp
  | cons d rest ih => simp [ih]

/-- What is told of a material. -/
def MaterialTable.told (textures : TextureTable) (entry : String × Json) : List Diagnostic :=
  match Declaration.decode entry.2 with
  | .ok d =>
      [d.textureRef, d.bumpRef, d.specularRef].filterMap (Declaration.unknown? textures entry.1)
  | .error e => [.malformed .materials entry.1 e.message]

/-- A material tells of each of its three references that is unknown. -/
theorem MaterialTable.Declaration.problems_tell (d : Declaration) (id : String)
    (textures : TextureTable) (j : Journal) :
    (d.tell id textures j).problems =
      j.problems ++ [d.textureRef, d.bumpRef, d.specularRef].filterMap (unknown? textures id) := by
  unfold tell
  simp only
  split
  next => rw [Journal.problems_note, Journal.problems_foldl_add]
  next => rw [Journal.problems_foldl_add]

/-- An entry of the materials tells that it is malformed, or which of its textures are unknown. -/
theorem MaterialTable.telling (textures : TextureTable) :
    Telling .materials (addEntry textures) (told textures) where
  result b j k entry := by
    unfold addEntry
    cases Declaration.decode entry.2 <;> rfl
  problems b j entry := by
    unfold addEntry told
    cases Declaration.decode entry.2 with
    | ok d => exact d.problems_tell entry.1 textures j
    | error e => simp
  own entry other id message h := by
    unfold told at h
    split at h
    next d _ =>
      -- a texture that is not known is a problem of another kind
      obtain ⟨reference, -, hunknown⟩ := List.mem_filterMap.mp h
      obtain ⟨written, -, hwritten⟩ := Option.bind_eq_some_iff.mp hunknown
      simp only at hwritten
      split at hwritten <;> cases hwritten
    next =>
      cases List.mem_singleton.mp h
      exact ⟨rfl, rfl⟩

/-! ### Notes about a whole section -/

theorem CameraSet.ofSection_notes (members : Json.Members) (j : Journal) :
    (ofSection members j).1 = (members.foldl addEntry (⟨none, []⟩, j)).1 ∧
      (ofSection members j).2.problems = (members.foldl addEntry (⟨none, []⟩, j)).2.problems := by
  unfold ofSection
  simp only
  split
  next => exact ⟨rfl, rfl⟩
  next => exact ⟨rfl, Journal.problems_note ..⟩

theorem LoadedScene.readTextures_notes (entries : Json.Members) (options : LoadOptions)
    (j : Journal) :
    (readTextures entries options j).1 =
        (TextureTable.ofSection entries options.baseDirectory j).1 ∧
      (readTextures entries options j).2.problems =
        (TextureTable.ofSection entries options.baseDirectory j).2.problems := by
  unfold readTextures
  simp only
  split
  next => exact ⟨rfl, Journal.problems_note ..⟩
  next => exact ⟨rfl, rfl⟩

theorem MaterialTable.ofSection_notes (entries : Json.Members) (textures : TextureTable)
    (j : Journal) :
    (ofSection entries textures j).1 = (entries.foldl (addEntry textures) (empty, j)).1 ∧
      (ofSection entries textures j).2.problems =
        (entries.foldl (addEntry textures) (empty, j)).2.problems :=
  ⟨rfl, Journal.problems_note ..⟩

/-! ### A document and the same without an entry -/

namespace Document.Malformed

variable {d : Document} {part : Part} {id : String} {e : Json.DecodeError}

/-- Leaving out a malformed entry changes nothing of the globals. -/
theorem alike_globals (h : d.Malformed part id e) :
    AlikeBut (.malformed part id e.message) 0 (Globals.ofSection d.globals)
      (Globals.ofSection (d.without part id).globals) := by
  have hsame : (d.without part id).globals = d.globals := by cases h <;> rfl
  have hpart : part ≠ .globals := by cases h <;> decide
  rw [hsame]
  unfold Globals.ofSection
  cases Globals.decode (.object d.globals) with
  | ok globals =>
      exact .of_told (a := globals) (fun _ => rfl) (fun j => (List.append_nil _).symm)
        (fun _ => rfl) (fun j => (List.append_nil _).symm) rfl rfl
  | error cause =>
      have hother : .malformed part id e.message ∉
          [Diagnostic.malformed .globals Part.globals.name cause.message] := by simp [hpart]
      exact .of_told (a := Globals.usual) (fun _ => rfl) (fun j => Journal.problems_add ..)
        (fun _ => rfl) (fun j => Journal.problems_add ..) (Journal.filter_of_not_mem hother).symm
        (List.count_eq_zero.mpr hother)

/-- Leaving out a malformed entry keeps the cameras, and what they tell but for that entry. -/
theorem alike_cameras (h : d.Malformed part id e) (hd : d.Distinct) :
    AlikeBut (.malformed part id e.message) (if part = .cameras then 1 else 0)
      (CameraSet.ofSection d.cameras) (CameraSet.ofSection (d.without part id).cameras) := by
  refine .congr ?_ (CameraSet.ofSection_notes _) (CameraSet.ofSection_notes _)
  cases h with
  | camera named entry error =>
      refine CameraSet.telling.alike_drop _ hd.cameras entry (fun b j => ?_) ?_
      · simp [CameraSet.addEntry, CameraSet.entry, named, error]
      · simp [CameraSet.told, named, error]
  | texture | material | record => exact CameraSet.telling.alike_other (by decide) _ _

/-- Leaving out a malformed entry keeps the textures, and what they tell but for that entry. -/
theorem alike_textures (h : d.Malformed part id e) (hd : d.Distinct) (options : LoadOptions) :
    AlikeBut (.malformed part id e.message) (if part = .textures then 1 else 0)
      (LoadedScene.readTextures d.textures options)
      (LoadedScene.readTextures (d.without part id).textures options) := by
  refine .congr ?_ (LoadedScene.readTextures_notes _ _) (LoadedScene.readTextures_notes _ _)
  cases h with
  | texture entry error =>
      refine (TextureTable.telling _).alike_drop _ hd.textures entry (fun b j => ?_) ?_
      · simp [TextureTable.addEntry, error]
      · simp [TextureTable.told, error]
  | camera | material | record => exact (TextureTable.telling _).alike_other (by decide) _ _

/-- Leaving out a malformed entry keeps the materials, and what they tell but for that entry. -/
theorem alike_materials (h : d.Malformed part id e) (hd : d.Distinct) (textures : TextureTable) :
    AlikeBut (.malformed part id e.message) (if part = .materials then 1 else 0)
      (MaterialTable.ofSection d.materials textures)
      (MaterialTable.ofSection (d.without part id).materials textures) := by
  refine .congr ?_ (MaterialTable.ofSection_notes _ _) (MaterialTable.ofSection_notes _ _)
  cases h with
  | material entry error =>
      refine (MaterialTable.telling _).alike_drop _ hd.materials entry (fun b j => ?_) ?_
      · simp [MaterialTable.addEntry, error]
      · simp [MaterialTable.told, error]
  | camera | texture | record => exact (MaterialTable.telling _).alike_other (by decide) _ _

end Document.Malformed

end Scenery
