import Mathlib.Data.List.Nodup
import Scenery.Json.Reader

/-!
# The keys of a value that was read

An object is a list of members, and nothing in the type says that their keys differ.  The
reader sees to it: a member whose key is there already is put in its place.  So in a value
that was read no object has two members of one key, at any depth
(`Json.wellFormed_of_parse`).

Where keys differ, finding the value of a key and finding a member come to the same
(`Json.lookup_eq_some_iff`), and leaving out a key leaves out one member.
-/

namespace Scenery

namespace Json

/-- The keys of a list of members, in order. -/
def keys (members : Members) : List String := members.map (·.1)

/-- No object in a value has two members of one key. -/
inductive WellFormed : Json → Prop where
  | null : WellFormed .null
  | bool (value : Bool) : WellFormed (.bool value)
  | number (value : Number) : WellFormed (.number value)
  | string (value : String) : WellFormed (.string value)
  | array {items : List Json} (h : ∀ item ∈ items, WellFormed item) : WellFormed (.array items)
  | object {members : Members} (distinct : (keys members).Nodup)
      (h : ∀ member ∈ members, WellFormed member.2) : WellFormed (.object members)

/-! ## Members -/

variable {key : String} {v : Json} {ms : Members}

theorem keys_put (key : String) (v : Json) (ms : Members) :
    keys (put key v ms) = if key ∈ keys ms then keys ms else keys ms ++ [key] := by
  induction ms with
  | nil => rfl
  | cons member rest ih =>
      obtain ⟨k, w⟩ := member
      unfold put
      by_cases hk : k = key
      · simp [hk, keys]
      · rw [if_neg hk]
        simp only [keys, List.map_cons] at ih ⊢
        rw [ih]
        by_cases hmem : key ∈ rest.map (·.1) <;> simp [hmem, Ne.symm hk]

theorem nodup_keys_put (h : (keys ms).Nodup) (key : String) (v : Json) :
    (keys (put key v ms)).Nodup := by
  rw [keys_put]
  split
  next => exact h
  next hnew => exact List.nodup_append.mpr ⟨h, List.nodup_singleton key, fun k hk _ he hkey =>
      hnew (List.mem_singleton.mp he ▸ hkey ▸ hk)⟩

theorem mem_put {member : String × Json} (h : member ∈ put key v ms) :
    member ∈ ms ∨ member.2 = v := by
  induction ms with
  | nil => exact Or.inr (congrArg Prod.snd (List.mem_singleton.mp h))
  | cons first rest ih =>
      unfold put at h
      split at h
      next =>
        rcases List.mem_cons.mp h with rfl | hrest
        · exact Or.inr rfl
        · exact Or.inl (List.mem_cons_of_mem _ hrest)
      next =>
        rcases List.mem_cons.mp h with rfl | hrest
        · exact Or.inl (List.mem_cons_self ..)
        · exact (ih hrest).imp_left (List.mem_cons_of_mem _)

/-- Where keys differ, the value of a key is that of the member with this key. -/
theorem lookup_eq_some_iff (h : (keys ms).Nodup) :
    ms.lookup key = some v ↔ (key, v) ∈ ms := by
  induction ms with
  | nil => simp
  | cons member rest ih =>
      obtain ⟨k, w⟩ := member
      obtain ⟨hnew, hrest⟩ := List.nodup_cons.mp h
      by_cases hk : key = k
      · subst hk
        have hnot : (key, v) ∉ rest := fun hmem => hnew (List.mem_map.mpr ⟨_, hmem, rfl⟩)
        simp [hnot, eq_comm]
      · simp [List.lookup_cons, hk, beq_false_of_ne hk, ih hrest]

/-! ## Reading -/

theorem wellFormed_literal {value : Json} {letters s r : List Char} (hvalue : value.WellFormed)
    (h : literal value letters s = .ok (v, r)) : v.WellFormed := by
  fun_induction literal value letters s with
  | case1 => cases h; exact hvalue
  | case2 => cases h
  | case3 l letters rest ih => exact ih h
  | case4 => cases h

theorem length_lt_of_skipBlanks {c : Char} {s rest : List Char} (h : skipBlanks s = c :: rest) :
    rest.length < s.length := by
  have hle := skipBlanks_length s
  rw [h] at hle
  exact hle

theorem wellFormed_taken {β : Type} {s : List Char} {f : β → Json}
    {r : Except Halt (β × List Char)} {hr : ∀ x rest, r = .ok (x, rest) → rest.length < s.length}
    {rest : {rest : List Char // rest.length < s.length}}
    (hvalue : ∀ x rest, r = .ok (x, rest) → (f x).WellFormed)
    (h : taken f r hr = .ok (v, rest)) : v.WellFormed := by
  unfold taken at h
  split at h
  next => cases h
  next x rest _ =>
    cases h
    exact hvalue x rest rfl

/-- Whatever is read of texts shorter than a length is well formed. -/
structure ReadsBelow (n : Nat) : Prop where
  value : ∀ {depth s v r}, s.length < n → Json.value depth s = .ok (v, r) → v.WellFormed
  items : ∀ {depth first acc s xs r}, s.length < n → (∀ item ∈ acc, item.WellFormed) →
    Json.items depth first acc s = .ok (xs, r) → ∀ item ∈ xs, item.WellFormed
  members : ∀ {depth first acc s ms r}, s.length < n → (keys acc).Nodup →
    (∀ member ∈ acc, member.2.WellFormed) → Json.members depth first acc s = .ok (ms, r) →
      (keys ms).Nodup ∧ ∀ member ∈ ms, member.2.WellFormed

section Readers

variable {depth : Nat} {first : Bool} {s : List Char} {r : {r : List Char // r.length < s.length}}

theorem ReadsBelow.wellFormed_value (below : ReadsBelow s.length)
    (h : Json.value depth s = .ok (v, r)) : v.WellFormed := by
  rw [Json.value] at h
  split at h
  next => cases h
  next c rest hs =>
    have hlt := length_lt_of_skipBlanks hs
    simp only at h
    split at h
    next => exact wellFormed_taken (fun _ _ h => wellFormed_literal .null h) h
    split at h
    next => exact wellFormed_taken (fun _ _ h => wellFormed_literal (.bool true) h) h
    split at h
    next => exact wellFormed_taken (fun _ _ h => wellFormed_literal (.bool false) h) h
    split at h
    next => exact wellFormed_taken (fun x _ _ => .string x) h
    split at h
    next => exact wellFormed_taken (fun x _ _ => .number x) h
    split at h
    next => exact wellFormed_taken (fun x _ _ => .number x) h
    split at h
    next =>
      cases depth with
      | zero => cases h
      | succ depth =>
          simp only at h
          split at h
          next => cases h
          next xs after _ hitems =>
            cases h
            exact .array (below.items hlt (by simp) hitems)
    split at h
    next =>
      cases depth with
      | zero => cases h
      | succ depth =>
          simp only at h
          split at h
          next => cases h
          next ms after _ hmembers =>
            cases h
            obtain ⟨distinct, hvalues⟩ :=
              below.members hlt (by simp [keys]) (by simp) hmembers
            exact .object distinct hvalues
    next => cases h

theorem ReadsBelow.wellFormed_items {acc xs : List Json} (below : ReadsBelow s.length)
    (hacc : ∀ item ∈ acc, item.WellFormed) (h : Json.items depth first acc s = .ok (xs, r)) :
    ∀ item ∈ xs, item.WellFormed := by
  rw [Json.items] at h
  split at h
  next => cases h
  next c rest hs =>
    have hlt := length_lt_of_skipBlanks hs
    simp only at h
    split at h
    next =>
      cases h
      simpa using hacc
    split at h
    next =>
      split at h
      next => cases h
      next x after hafter hx =>
        have hx := below.wellFormed_value hx
        split at h
        next => cases h
        next ys last hlast hys =>
          cases h
          exact below.items hafter (List.forall_mem_cons.mpr ⟨hx, hacc⟩) hys
    split at h
    next =>
      split at h
      next => cases h
      next => cases h
      next =>
        split at h
        next => cases h
        next x after hafter hx =>
          have hx := below.value hlt hx
          split at h
          next => cases h
          next ys last hlast hys =>
            cases h
            exact below.items (Nat.lt_trans hafter hlt) (List.forall_mem_cons.mpr ⟨hx, hacc⟩) hys
    next => cases h

theorem ReadsBelow.wellFormed_members {acc ms : Members} (below : ReadsBelow s.length)
    (hkeys : (keys acc).Nodup) (hacc : ∀ member ∈ acc, member.2.WellFormed)
    (h : Json.members depth first acc s = .ok (ms, r)) :
    (keys ms).Nodup ∧ ∀ member ∈ ms, member.2.WellFormed := by
  rw [Json.members] at h
  split at h
  next => cases h
  next c rest hs =>
    simp only at h
    split at h
    next =>
      cases h
      exact ⟨hkeys, hacc⟩
    split at h
    next => cases h
    split at h
    next key hk =>
      split at h
      next => cases h
      next name after ht =>
        split at h
        next => cases h
        next body hc =>
          have hbody : body.length < s.length :=
            calc body.length
                < after.length := length_lt_of_skipBlanks hc
              _ < key.length := text_length ht
              _ ≤ rest.length := by
                cases first with
                | true => cases hk; exact Nat.le_refl _
                | false => exact Nat.le_of_lt (length_lt_of_skipBlanks hk)
              _ < s.length := length_lt_of_skipBlanks hs
          split at h
          next => cases h
          next x last hlast hx =>
            have hx := below.value hbody hx
            split at h
            next => cases h
            next ns _ _ hns =>
              cases h
              refine below.members (Nat.lt_trans hlast hbody) (nodup_keys_put hkeys name x) ?_ hns
              intro member hmember
              rcases mem_put hmember with hold | hnew
              · exact hacc member hold
              · exact hnew ▸ hx
        next => cases h
    next => cases h

end Readers

theorem readsBelow (n : Nat) : ReadsBelow n := by
  induction n using Nat.strongRecOn with
  | ind n ih =>
      constructor
      case value => exact fun hlt h => (ih _ hlt).wellFormed_value h
      case items => exact fun hlt hacc h => (ih _ hlt).wellFormed_items hacc h
      case members => exact fun hlt hkeys hacc h => (ih _ hlt).wellFormed_members hkeys hacc h

theorem wellFormed_whole {s : List Char} (h : whole? s = .ok v) : v.WellFormed := by
  unfold whole? at h
  split at h
  next => cases h
  next x rest hvalue =>
    split at h
    next =>
      cases h
      exact (readsBelow s.length).wellFormed_value hvalue
    next => cases h

/-- In a value that was read no object has two members of one key. -/
theorem wellFormed_of_parse {source : String} (h : parse source = .ok v) : v.WellFormed := by
  unfold parse at h
  simp only at h
  split at h
  next hwhole =>
    cases h
    exact wellFormed_whole hwhole
  next => cases h

end Json

end Scenery
