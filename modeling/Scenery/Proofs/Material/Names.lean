import Mathlib.Tactic.Common
import Scenery.Proofs.Omission.Sections
import Scenery.Proofs.Text.Lowercase

/-!
# What a name stands for

Names of textures and materials are folded to lower case in five places: when a texture
is declared, when a material is, when a material is put in its table, when a material
asks for a texture, and when a node asks for a material or a screen for a video.  All of
them come to the same key.

Within a section a key stands for the last of the entries that convert and fold to it
(`LastOf`).  Both tables are made by a loop over the entries.  An entry that converts and
folds to a key writes under it, whatever was there, and any other entry leaves what is
there alone (`foldl_of_noneOf`).  Which of the two it is depends on the entry only
(`Names`).  So what is found in the end was written by the last entry that writes, and
entries after it that do not convert take nothing away.

A material is folded twice on its way into the table, and once by whoever looks it up.
That this comes to one key is `Text.lower_lower`.

`Catalog.BindsNames` says what the tables of two sections hold, how materials are bound to
textures, and what nodes and screens find.
-/

namespace Scenery

/-! ## Entries of a section -/

section Entries

variable {δ γ : Type} {decode : Json.Decoder δ} {key : String}

/-- An entry of a section converts, and its id folds to a key. -/
def Names (decode : Json.Decoder δ) (key : String) (entry : String × Json) : Prop :=
  (∃ d, decode entry.2 = .ok d) ∧ Text.lower entry.1 = key

/-- No entry of a section that converts folds to a key. -/
def NoneOf (decode : Json.Decoder δ) (key : String) (entries : Json.Members) : Prop :=
  ∀ entry ∈ entries, ¬ Names decode key entry

/-- The last entry of a section that converts and folds to a key: its id, what it converts
to, and the entries before it. -/
inductive LastOf (decode : Json.Decoder δ) (key : String) :
    Json.Members → Json.Members → String → δ → Prop where
  | intro {before after : Json.Members} {id : String} {value : Json} {d : δ}
      (converts : decode value = .ok d) (folds : Text.lower id = key)
      (others : NoneOf decode key after) :
      LastOf decode key (before ++ (id, value) :: after) before id d

/-- The last entry of a name stays the last when another one comes before all. -/
theorem LastOf.cons {entries before : Json.Members} {id : String} {d : δ}
    (h : LastOf decode key entries before id d) (first : String × Json) :
    LastOf decode key (first :: entries) (first :: before) id d := by
  obtain ⟨converts, folds, others⟩ := h
  rw [← List.cons_append]
  exact .intro converts folds others

/-- Either no entry that converts has a name, or one of them is the last. -/
theorem noneOf_or_lastOf (decode : Json.Decoder δ) (key : String) (entries : Json.Members) :
    NoneOf decode key entries ∨ ∃ before id d, LastOf decode key entries before id d := by
  induction entries with
  | nil => exact .inl fun _ h => absurd h List.not_mem_nil
  | cons first rest ih =>
      rcases ih with hnone | ⟨before, id, d, hlast⟩
      · by_cases hfirst : Names decode key first
        · obtain ⟨⟨d, converts⟩, folds⟩ := hfirst
          have hlast : LastOf decode key ([] ++ (first.1, first.2) :: rest) [] first.1 d :=
            .intro converts folds hnone
          exact .inr ⟨[], first.1, d, hlast⟩
        · exact .inl (List.forall_mem_cons.mpr ⟨hfirst, hnone⟩)
      · exact .inr ⟨first :: before, id, d, hlast.cons first⟩

/-- Where there is a last entry of a name, there is one. -/
theorem LastOf.not_noneOf {entries before : Json.Members} {id : String} {d : δ}
    (h : LastOf decode key entries before id d) : ¬ NoneOf decode key entries := by
  obtain ⟨converts, folds, -⟩ := h
  exact fun hnone => hnone _ (List.mem_append_right _ (List.mem_cons_self ..))
    ⟨⟨d, converts⟩, folds⟩

/-- What is found under a key is made from the last entry that the key stands for, and
nothing is found if there is none. -/
structure Found (decode : Json.Decoder δ) (entries : Json.Members) (key : String)
    (make : Json.Members → String → δ → γ) (found : Option γ) : Prop where
  some_iff : ∀ x, found = some x ↔
    ∃ before id d, LastOf decode key entries before id d ∧ x = make before id d
  none_iff : found = none ↔ NoneOf decode key entries

/-- A lookup is settled by what it gives without an entry of the name, and with a last one. -/
theorem Found.of_cases {entries : Json.Members} {make : Json.Members → String → δ → γ}
    {found : Option γ} (hnone : NoneOf decode key entries → found = none)
    (hlast : ∀ before id d, LastOf decode key entries before id d →
      found = some (make before id d)) : Found decode entries key make found := by
  rcases noneOf_or_lastOf decode key entries with h | ⟨before, id, d, h⟩
  · refine ⟨fun x => ⟨fun hx => ?_, ?_⟩, fun _ => h, hnone⟩
    · rw [hnone h] at hx
      cases hx
    · rintro ⟨before, id, d, hd, -⟩
      exact absurd h hd.not_noneOf
  · refine ⟨fun x => ⟨fun hx => ⟨before, id, d, h, ?_⟩, ?_⟩, fun hx => ?_,
      fun h' => absurd h' h.not_noneOf⟩
    · rw [hlast before id d h] at hx
      exact (Option.some.inj hx).symm
    · rintro ⟨before, id, d, hd, rfl⟩
      exact hlast before id d hd
    · rw [hlast before id d h] at hx
      cases hx

/-! ### Loops in which the last writer decides -/

/-- Entries that do not fold to a key leave what is found under it alone. -/
theorem foldl_of_noneOf {σ : Type} {step : σ → String × Json → σ} (find : σ → Option γ)
    (hskip : ∀ s entry, ¬ Names decode key entry → find (step s entry) = find s)
    {entries : Json.Members} (hnone : NoneOf decode key entries) (s : σ) :
    find (entries.foldl step s) = find s := by
  induction entries generalizing s with
  | nil => rfl
  | cons entry rest ih =>
      obtain ⟨hentry, hrest⟩ := List.forall_mem_cons.mp hnone
      rw [List.foldl_cons, ih hrest, hskip s entry hentry]

end Entries

/-! ## Textures -/

namespace TextureTable

variable {base : Option String} {entries : Json.Members} {key : String}

/-- How many entries of a section convert. -/
def valid (entries : Json.Members) : Nat :=
  entries.countP fun entry => (Declaration.decode entry.2).isOk

/-- The handle of an entry that comes after others of its section. -/
def handle (base : Option String) (before : Json.Members) (id : String) (d : Declaration) :
    TextureHandle :=
  ⟨valid before, Text.lower id, d.source base⟩

/-- An entry that does not convert leaves the table of textures as it was. -/
theorem addEntry_of_error {entry : String × Json} {e : Json.DecodeError}
    (h : Declaration.decode entry.2 = .error e) (acc : TextureTable × Journal) :
    (addEntry base acc entry).1 = acc.1 := by
  rw [addEntry, h]

/-- An entry that converts is put into the table of textures. -/
theorem addEntry_of_ok {entry : String × Json} {d : Declaration}
    (h : Declaration.decode entry.2 = .ok d) (acc : TextureTable × Journal) :
    (addEntry base acc entry).1 = (acc.1.insert entry.1 (d.source base)).1 := by
  rw [addEntry, h]

/-- What is put in is found under its own name, and hides what had that name before. -/
theorem lookup_insert (t : TextureTable) (id : String) (source : TextureSource) (key : String) :
    (t.insert id source).1.lookup key =
      if Text.lower id = key then some ⟨t.slots, Text.lower id, source⟩ else t.lookup key := by
  unfold insert lookup
  simp only [Std.HashMap.getElem?_insert, beq_iff_eq]

/-- An entry of another name, or one that does not convert, changes no lookup of a name. -/
theorem lookup_addEntry_of_not (acc : TextureTable × Journal) (entry : String × Json)
    (h : ¬ Names Declaration.decode key entry) :
    (addEntry base acc entry).1.lookup key = acc.1.lookup key := by
  cases hd : Declaration.decode entry.2 with
  | error e => rw [addEntry_of_error hd]
  | ok d => rw [addEntry_of_ok hd, lookup_insert, if_neg fun hfold => h ⟨⟨d, hd⟩, hfold⟩]

/-- An entry that converts opens a slot. -/
theorem slots_foldl (entries : Json.Members) (acc : TextureTable × Journal) :
    (entries.foldl (addEntry base) acc).1.slots = acc.1.slots + valid entries := by
  induction entries generalizing acc with
  | nil => rfl
  | cons entry rest ih =>
      rw [List.foldl_cons, ih, valid, valid, List.countP_cons]
      cases hd : Declaration.decode entry.2 with
      | error e => simp [addEntry_of_error hd, Except.isOk, Except.toBool]
      | ok d =>
          have hslots : (acc.1.insert entry.1 (d.source base)).1.slots = acc.1.slots + 1 := rfl
          simp only [addEntry_of_ok hd, hslots, Except.isOk, Except.toBool, if_true]
          omega

/-- Entries none of which has a name change no lookup of the name. -/
theorem lookup_foldl_of_noneOf (hnone : NoneOf Declaration.decode key entries)
    (acc : TextureTable × Journal) :
    (entries.foldl (addEntry base) acc).1.lookup key = acc.1.lookup key :=
  foldl_of_noneOf (fun acc : TextureTable × Journal => acc.1.lookup key) lookup_addEntry_of_not
    hnone acc

/-- A key stands for the texture of the last entry that converts and folds to it. -/
theorem found_ofSection (entries : Json.Members) (base : Option String) (j : Journal)
    (key : String) :
    Found Declaration.decode entries key (handle base)
      ((ofSection entries base j).1.lookup key) := by
  refine .of_cases (fun hnone => ?_) ?_
  · have hempty : empty.lookup key = none := Std.HashMap.getElem?_empty
    rw [ofSection, lookup_foldl_of_noneOf hnone, hempty]
  · rintro before id d ⟨converts, folds, others⟩
    have hslots : (before.foldl (addEntry base) (empty, j)).1.slots = valid before := by
      rw [slots_foldl, empty, Nat.zero_add]
    rw [ofSection, List.foldl_append, List.foldl_cons, lookup_foldl_of_noneOf others,
      addEntry_of_ok converts, lookup_insert, if_pos folds, hslots, handle]

/-- An entry that does not convert makes no difference to the table. -/
theorem ofSection_of_error {before after : Json.Members} {entry : String × Json}
    {e : Json.DecodeError} (h : Declaration.decode entry.2 = .error e) (base : Option String)
    (j k : Journal) :
    (ofSection (before ++ entry :: after) base j).1 = (ofSection (before ++ after) base k).1 :=
  (telling base).foldl_result_omit (fun t j => addEntry_of_error h (t, j)) empty before after j k

/-- A handle holds the key that it is found under. -/
theorem id_of_lookup {j : Journal} {h : TextureHandle}
    (hh : (ofSection entries base j).1.lookup key = some h) : h.id = key := by
  obtain ⟨before, id, d, ⟨-, folds, -⟩, rfl⟩ :=
    ((found_ofSection entries base j key).some_iff h).mp hh
  exact folds

end TextureTable

/-! ## Materials -/

namespace MaterialTable

variable {textures : TextureTable} {entries : Json.Members} {key : String}

/-- An entry that does not convert leaves the table of materials as it was. -/
theorem addEntry_of_error {entry : String × Json} {e : Json.DecodeError}
    (h : Declaration.decode entry.2 = .error e) (acc : MaterialTable Float32 × Journal) :
    (addEntry textures acc entry).1 = acc.1 := by
  rw [addEntry, h]

/-- An entry that converts is put into the table of materials. -/
theorem addEntry_of_ok {entry : String × Json} {d : Declaration}
    (h : Declaration.decode entry.2 = .ok d) (acc : MaterialTable Float32 × Journal) :
    (addEntry textures acc entry).1 = (acc.1.insert (d.resolve entry.1 textures)).1 := by
  rw [addEntry, h]

namespace Declaration

/-- The texture of a material is the one its reference finds. -/
theorem texture_resolve (d : Declaration) (id : String) (textures : TextureTable) :
    (d.resolve id textures).texture.map TextureBinding.texture =
      handle? textures d.textureRef := by
  rw [resolve, Option.map_map]
  exact Option.map_id_apply

/-- A reference is unknown if it is written and its name finds no texture. -/
theorem unknown?_eq_some_iff {owner : String} {reference : Option String}
    {problem : Diagnostic} : unknown? textures owner reference = some problem ↔
      ∃ written, reference = some written ∧ textures.lookup (Text.lower written) = none ∧
        problem = .unknownTexture owner (Text.lower written) := by
  unfold unknown?
  rw [Option.bind_eq_some_iff]
  refine exists_congr fun written => and_congr_right fun _ => ?_
  rw [Option.ite_none_right_eq_some, Option.isNone_iff_eq_none, Option.some_inj,
    eq_comm (a := problem)]

end Declaration

/-- A material is folded when it is resolved and again when it is put in the table. -/
theorem lookup_insert_resolve (t : MaterialTable Float32) (d : Declaration) (id key : String) :
    (t.insert (d.resolve id textures)).1.lookup key =
      if Text.lower id = key then some ⟨some key, d.resolve id textures⟩ else t.lookup key := by
  have hname : Text.lower (d.resolve id textures).name = Text.lower id := Text.lower_lower id
  have hmaterial : { d.resolve id textures with name := Text.lower id } =
      d.resolve id textures := rfl
  unfold insert lookup
  simp only [hname, hmaterial, Std.HashMap.getElem?_insert, beq_iff_eq]
  split
  · rfl
  · rfl

/-- An entry of another name, or one that does not convert, changes no lookup of a material. -/
theorem lookup_addEntry_of_not (acc : MaterialTable Float32 × Journal) (entry : String × Json)
    (h : ¬ Names Declaration.decode key entry) :
    (addEntry textures acc entry).1.lookup key = acc.1.lookup key := by
  cases hd : Declaration.decode entry.2 with
  | error e => rw [addEntry_of_error hd]
  | ok d =>
      rw [addEntry_of_ok hd, lookup_insert_resolve, if_neg fun hfold => h ⟨⟨d, hd⟩, hfold⟩]

/-- Entries none of which has a name change no lookup of a material of the name. -/
theorem lookup_foldl_of_noneOf (hnone : NoneOf Declaration.decode key entries)
    (acc : MaterialTable Float32 × Journal) :
    (entries.foldl (addEntry textures) acc).1.lookup key = acc.1.lookup key :=
  foldl_of_noneOf (fun acc : MaterialTable Float32 × Journal => acc.1.lookup key)
    lookup_addEntry_of_not hnone acc

/-- The material of an entry, as nodes find it under a key. -/
def handle (textures : TextureTable) (key : String) (_before : Json.Members) (id : String)
    (d : Declaration) : MaterialHandle Float32 :=
  ⟨some key, d.resolve id textures⟩

/-- A key stands for the material of the last entry that converts and folds to it. -/
theorem found_ofSection (entries : Json.Members) (textures : TextureTable) (j : Journal)
    (key : String) :
    Found Declaration.decode entries key (handle textures key)
      ((ofSection entries textures j).1.lookup key) := by
  rw [(ofSection_notes entries textures j).1]
  refine .of_cases (fun hnone => ?_) ?_
  · have hempty : (empty : MaterialTable Float32).lookup key = none := by
      rw [empty, lookup, Std.HashMap.getElem?_empty, Option.map_none]
    rw [lookup_foldl_of_noneOf hnone, hempty]
  · rintro before id d ⟨converts, folds, others⟩
    rw [List.foldl_append, List.foldl_cons, lookup_foldl_of_noneOf others, addEntry_of_ok converts,
      lookup_insert_resolve, if_pos folds, handle]

/-- An entry that does not convert makes no difference to the table. -/
theorem ofSection_of_error {before after : Json.Members} {entry : String × Json}
    {e : Json.DecodeError} (h : Declaration.decode entry.2 = .error e) (textures : TextureTable)
    (j k : Journal) : (ofSection (before ++ entry :: after) textures j).1 =
      (ofSection (before ++ after) textures k).1 :=
  (telling textures).foldl_result_omit (fun t j => addEntry_of_error h (t, j)) empty before after
    j k

/-- A material holds the key that it is found under. -/
theorem name_of_lookup {j : Journal} {h : MaterialHandle Float32}
    (hh : (ofSection entries textures j).1.lookup key = some h) : h.material.name = key := by
  obtain ⟨before, id, d, ⟨-, folds, -⟩, rfl⟩ :=
    ((found_ofSection entries textures j key).some_iff h).mp hh
  exact folds

end MaterialTable

/-! ## What is bound to what -/

/-- A slot of a material is filled by a reference: it holds the texture that the reference
stands for.  It is empty if there is no reference, or one that stands for nothing. -/
inductive Filled (entries : Json.Members) (base : Option String) :
    Option String → Option TextureHandle → Prop where
  | absent : Filled entries base none none
  | written {reference : String} {slot : Option TextureHandle}
      (found : Found TextureTable.Declaration.decode entries (Text.lower reference)
        (TextureTable.handle base) slot) : Filled entries base (some reference) slot

/-- A slot is filled with the texture of the last entry that has the name of its reference. -/
theorem filled_handle? (entries : Json.Members) (base : Option String) (j : Journal)
    (reference : Option String) : Filled entries base reference
      (MaterialTable.Declaration.handle? (TextureTable.ofSection entries base j).1 reference) := by
  cases reference with
  | none => exact .absent
  | some written => exact .written (TextureTable.found_ofSection entries base j _)

/-- Names of textures and materials stand for the same in every place where they are used.
`base` is the directory of the textures, and the two sections are in the order in which they
are written. -/
structure Catalog.BindsNames (c : Catalog Float32) (base : Option String)
    (textures materials : Json.Members) : Prop where
  /-- A key of the texture table. -/
  texture : ∀ key, Found TextureTable.Declaration.decode textures key (TextureTable.handle base)
    (c.textures.lookup key)
  /-- A key of the material table. -/
  material : ∀ key, Found MaterialTable.Declaration.decode materials key
    (MaterialTable.handle c.textures key) (c.materials.lookup key)
  /-- The texture of the color of a material. -/
  color : ∀ (d : MaterialTable.Declaration) (id : String), Filled textures base d.textureRef
    ((d.resolve id c.textures).texture.map TextureBinding.texture)
  /-- The texture of the height of a material. -/
  bump : ∀ (d : MaterialTable.Declaration) (id : String),
    Filled textures base d.bumpRef (d.resolve id c.textures).bumpMap
  /-- The texture of the reflections of a material. -/
  specular : ∀ (d : MaterialTable.Declaration) (id : String),
    Filled textures base d.specularRef (d.resolve id c.textures).specularMap
  /-- A reference is a problem if it stands for nothing. -/
  unknown : ∀ owner reference problem,
    MaterialTable.Declaration.unknown? c.textures owner reference = some problem ↔
      ∃ written, reference = some written ∧
        NoneOf TextureTable.Declaration.decode (Text.lower written) textures ∧
        problem = .unknownTexture owner (Text.lower written)
  /-- An entry that converts tells of its three references, in this order. -/
  told : ∀ id value d, MaterialTable.Declaration.decode value = .ok d →
    MaterialTable.told c.textures (id, value) = [d.textureRef, d.bumpRef, d.specularRef].filterMap
      (MaterialTable.Declaration.unknown? c.textures id)
  /-- What the entries tell is told in their order. -/
  problems : ∀ journal, (MaterialTable.ofSection materials c.textures journal).2.problems =
    journal.problems ++ materials.flatMap (MaterialTable.told c.textures)
  /-- A texture holds its key. -/
  textureKey : ∀ key handle, c.textures.lookup key = some handle → handle.id = key
  /-- A material holds its key. -/
  materialKey : ∀ key handle, c.materials.lookup key = some handle → handle.material.name = key
  /-- A texture that does not convert takes nothing away. -/
  textureOmit : ∀ before entry after e, textures = before ++ entry :: after →
    TextureTable.Declaration.decode entry.2 = .error e →
      ∀ j, c.textures = (TextureTable.ofSection (before ++ after) base j).1
  /-- A material that does not convert takes nothing away. -/
  materialOmit : ∀ before entry after e, materials = before ++ entry :: after →
    MaterialTable.Declaration.decode entry.2 = .error e →
      ∀ j, c.materials = (MaterialTable.ofSection (before ++ after) c.textures j).1
  /-- A node that names a material gets what the name stands for. -/
  node : ∀ (r : NodeRecord) (ref : Reference) (j : Journal) (written : String),
    r.materialId = some written →
      ∃ found, Found MaterialTable.Declaration.decode materials (Text.lower written)
          (MaterialTable.handle c.textures (Text.lower written)) found ∧
        ∀ inherited, c.effective (r.build ref j).1 inherited = found.getD inherited
  /-- A screen shows the video that its reference stands for. -/
  video : ∀ (v : Video Float32) (material : MaterialHandle Float32),
    ∃ found, Found TextureTable.Declaration.decode textures (Text.lower v.textureRef)
        (TextureTable.handle base) found ∧
      c.appearance material (.video v) = .video found

/-- Whatever a document declares, its names are bound in this way. -/
theorem Catalog.bindsNames_ofSections (nodes : NodeDictionary Float32) (base : Option String)
    (textures materials : Json.Members) (j k : Journal) :
    (⟨nodes, (MaterialTable.ofSection materials (TextureTable.ofSection textures base j).1 k).1,
      (TextureTable.ofSection textures base j).1⟩ : Catalog Float32).BindsNames base textures
        materials where
  texture := TextureTable.found_ofSection textures base j
  material := MaterialTable.found_ofSection materials _ k
  color d id := by
    rw [MaterialTable.Declaration.texture_resolve]
    exact filled_handle? textures base j d.textureRef
  bump d _ := filled_handle? textures base j d.bumpRef
  specular d _ := filled_handle? textures base j d.specularRef
  unknown owner reference problem := by
    rw [MaterialTable.Declaration.unknown?_eq_some_iff]
    simp only [(TextureTable.found_ofSection textures base j _).none_iff]
  told id value d hd := by rw [MaterialTable.told, hd]
  problems journal := by
    rw [(MaterialTable.ofSection_notes _ _ _).2, (MaterialTable.telling _).foldl_problems]
  textureKey key handle h := TextureTable.id_of_lookup h
  materialKey key handle h := MaterialTable.name_of_lookup h
  textureOmit before entry after e hsplit he i := by
    rw [hsplit, TextureTable.ofSection_of_error he base j i]
  materialOmit before entry after e hsplit he i := by
    rw [hsplit, MaterialTable.ofSection_of_error he _ k i]
  node r ref i written hr := by
    refine ⟨_, MaterialTable.found_ofSection materials _ k _, fun inherited => ?_⟩
    rw [effective, NodeRecord.build, hr]
    rfl
  video v material := ⟨_, TextureTable.found_ofSection textures base j _, rfl⟩

end Scenery
