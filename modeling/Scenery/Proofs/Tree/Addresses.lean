import Mathlib.Data.List.Lex
import Scenery.Proofs.Tree

/-!
# Addresses in trees

The address of a place in a tree tells which way to go down to it: the number of a child, the
number of a child of that, and so on.  The tree at an address is found by following it
(`Tree.at?`), and so says nothing of the order in which places are listed.

`places` lists all places of a tree in the order in which trees are gone through, each with its
address.  It lists what is at the addresses of the tree and nothing else (`mem_places_iff`), in
the lexicographic order of the addresses (`pairwise_places`).  There is only one list of that
kind.  In this order an address comes before those that go on from it, and whatever goes on from
an address is in one piece (`exists_places_between`).

A scan lists its labels in this order too (`withinAll_depth`), a search gives the first place
with a match (`findAll?_eq_find?`), and how deep a place is, is how long its address is.
-/

namespace Scenery

namespace Tree

variable {β : Type}

/-! ## Addresses -/

/-- The tree at an address within a tree. -/
def at? : Tree β → List Nat → Option (Tree β)
  | t, [] => some t
  | t, i :: rest => t.children[i]?.bind fun s => s.at? rest

/-- The tree at an address within several trees. -/
def atAll? (ts : List (Tree β)) : List Nat → Option (Tree β)
  | [] => none
  | i :: rest => ts[i]?.bind fun t => t.at? rest

mutual

/-- The places of a tree with their addresses, the top first. -/
def places : Tree β → List (List Nat × Tree β)
  | node l ts => ([], node l ts) :: placesFrom 0 ts

/-- The places of several trees with their addresses, one tree after another, if the first one
has the number `i`. -/
def placesFrom (i : Nat) : List (Tree β) → List (List Nat × Tree β)
  | [] => []
  | t :: ts => ((places t).map fun place => (i :: place.1, place.2)) ++ placesFrom (i + 1) ts

end

/-- The places of several trees with their addresses. -/
def placesAll (ts : List (Tree β)) : List (List Nat × Tree β) := placesFrom 0 ts

theorem places_node (l : β) (ts : List (Tree β)) :
    places (node l ts) = ([], node l ts) :: placesFrom 0 ts := by rw [places]

theorem placesFrom_nil (i : Nat) : placesFrom i ([] : List (Tree β)) = [] := by rw [placesFrom]

theorem placesFrom_cons (i : Nat) (t : Tree β) (ts : List (Tree β)) :
    placesFrom i (t :: ts) =
      ((places t).map fun place => (i :: place.1, place.2)) ++ placesFrom (i + 1) ts := by
  rw [placesFrom]

/-! ## What is listed -/

mutual

/-- The places of a tree are what is at its addresses. -/
theorem mem_places_iff {s : Tree β} : ∀ {t : Tree β} {a : List Nat},
    (a, s) ∈ places t ↔ t.at? a = some s
  | node l ts, [] => by
      simp only [places_node, List.mem_cons, Prod.mk.injEq, true_and, mem_placesFrom_iff,
        List.nil_eq, reduceCtorEq, false_and, exists_false, or_false, at?, Option.some.injEq]
      exact eq_comm
  | node l ts, i :: rest => by
      simp only [places_node, List.mem_cons, Prod.mk.injEq, reduceCtorEq, false_and, false_or,
        mem_placesFrom_iff, Nat.zero_add, List.cons.injEq, at?, children]
      constructor
      · rintro ⟨j, more, ⟨rfl, rfl⟩, h⟩
        exact h
      · intro h
        exact ⟨i, rest, ⟨rfl, rfl⟩, h⟩

theorem mem_placesFrom_iff {s : Tree β} : ∀ {ts : List (Tree β)} {i : Nat} {a : List Nat},
    (a, s) ∈ placesFrom i ts ↔
      ∃ j rest, a = (i + j) :: rest ∧ (ts[j]?.bind fun t => t.at? rest) = some s
  | [], i, a => by simp [placesFrom_nil]
  | t :: ts, i, a => by
      simp only [placesFrom_cons, List.mem_append, List.mem_map, mem_placesFrom_iff]
      constructor
      · rintro (⟨⟨rest, _⟩, hmem, hplace⟩ | ⟨j, rest, rfl, h⟩)
        · cases hplace
          exact ⟨0, rest, rfl, mem_places_iff.mp hmem⟩
        · exact ⟨j + 1, rest, by rw [Nat.add_right_comm, Nat.add_assoc], h⟩
      · rintro ⟨j, rest, rfl, h⟩
        cases j with
        | zero => exact Or.inl ⟨(rest, s), mem_places_iff.mpr h, rfl⟩
        | succ j => exact Or.inr ⟨j, rest, by rw [Nat.add_right_comm, Nat.add_assoc], h⟩

end

theorem mem_placesAll_iff {ts : List (Tree β)} {a : List Nat} {s : Tree β} :
    (a, s) ∈ placesAll ts ↔ atAll? ts a = some s := by
  rw [placesAll, mem_placesFrom_iff]
  cases a with
  | nil => simp [atAll?]
  | cons i rest => simp [atAll?]

/-! ## In which order -/

mutual

/-- The places of a tree come in the order of their addresses. -/
theorem pairwise_places : ∀ t : Tree β, ((places t).map (·.1)).Pairwise (· < ·)
  | node l ts => by
      rw [places_node, List.map_cons, List.pairwise_cons]
      refine ⟨?_, pairwise_placesFrom 0 ts⟩
      intro a ha
      obtain ⟨⟨_, s⟩, hmem, rfl⟩ := List.mem_map.mp ha
      obtain ⟨j, rest, rfl, -⟩ := mem_placesFrom_iff.mp hmem
      exact .nil

/-- Places are listed in the lexicographic order of their addresses. -/
theorem pairwise_placesFrom : ∀ (i : Nat) (ts : List (Tree β)),
    ((placesFrom i ts).map (·.1)).Pairwise (· < ·)
  | i, [] => by simp [placesFrom_nil]
  | i, t :: ts => by
      rw [placesFrom_cons, List.map_append, List.map_map, List.pairwise_append]
      refine ⟨?_, pairwise_placesFrom (i + 1) ts, ?_⟩
      · have hfirst := (pairwise_places t).map (S := (· < ·)) (List.cons i)
          fun a b h => List.Lex.cons h
        rwa [List.map_map] at hfirst
      · intro a ha b hb
        obtain ⟨place, -, rfl⟩ := List.mem_map.mp ha
        obtain ⟨⟨_, s⟩, hmem, rfl⟩ := List.mem_map.mp hb
        obtain ⟨j, rest, rfl, -⟩ := mem_placesFrom_iff.mp hmem
        exact .rel (by omega)

end

/-! ## In one piece -/

/-- Places of a tree, if its own address is `a`. -/
def placesAt (a : List Nat) (t : Tree β) : List (List Nat × Tree β) :=
  (places t).map fun place => (a ++ place.1, place.2)

mutual

theorem exists_places_between {s : Tree β} : ∀ {t : Tree β} {a : List Nat},
    (a, s) ∈ places t → ∃ before after, places t = before ++ placesAt a s ++ after
  | node l ts, a, h => by
      rw [places_node] at h ⊢
      rcases List.mem_cons.mp h with htop | hbelow
      · cases htop
        exact ⟨[], [], by simp [placesAt, places_node]⟩
      · obtain ⟨before, after, hsplit⟩ := exists_placesFrom_between hbelow
        exact ⟨_ :: before, after, by rw [hsplit]; rfl⟩

/-- The places of a tree within others are listed one right after another. -/
theorem exists_placesFrom_between {s : Tree β} : ∀ {ts : List (Tree β)} {i : Nat} {a : List Nat},
    (a, s) ∈ placesFrom i ts → ∃ before after, placesFrom i ts = before ++ placesAt a s ++ after
  | [], i, a, h => by
      rw [placesFrom_nil] at h
      cases h
  | t :: ts, i, a, h => by
      rw [placesFrom_cons] at h ⊢
      rcases List.mem_append.mp h with hfirst | hrest
      · obtain ⟨⟨rest, _⟩, hmem, hplace⟩ := List.mem_map.mp hfirst
        cases hplace
        obtain ⟨before, after, hsplit⟩ := exists_places_between hmem
        refine ⟨before.map fun place => (i :: place.1, place.2),
          (after.map fun place => (i :: place.1, place.2)) ++ placesFrom (i + 1) ts, ?_⟩
        rw [hsplit]
        simp [placesAt, Function.comp_def]
      · obtain ⟨before, after, hsplit⟩ := exists_placesFrom_between hrest
        refine ⟨((places t).map fun place => (i :: place.1, place.2)) ++ before, after, ?_⟩
        rw [hsplit]
        simp only [List.append_assoc]

end

/-- A list of the places of some trees, parents first. -/
structure Preorder (ts : List (Tree β)) (listed : List (List Nat × Tree β)) : Prop where
  /-- It lists what is at the addresses and nothing else. -/
  mem_iff : ∀ a t, (a, t) ∈ listed ↔ atAll? ts a = some t
  /-- It lists nothing twice.  A parent comes before what is below it, and of two children the
  one with the smaller number comes first. -/
  sorted : (listed.map (·.1)).Pairwise (· < ·)
  /-- It lists all that is below a place right after it. -/
  together : ∀ a t, (a, t) ∈ listed → ∃ before after, listed = before ++ placesAt a t ++ after

/-- The places of a forest are its preorder. -/
theorem preorder_placesAll (ts : List (Tree β)) : Preorder ts (placesAll ts) where
  mem_iff _ _ := mem_placesAll_iff
  sorted := pairwise_placesFrom 0 ts
  together _ _ := exists_placesFrom_between

/-! ## Scans and searches -/

mutual

theorem within_depth : ∀ (n : Nat) (t : Tree β),
    within (fun n _ => n + 1) n t = (places t).map fun place => (place.2, n + 1 + place.1.length)
  | n, node l ts => by
      rw [within_node, places_node, List.map_cons, withinAll_placesFrom (n + 1) 0 ts]
      rfl

theorem withinAll_placesFrom : ∀ (n i : Nat) (ts : List (Tree β)),
    withinAll (fun n _ => n + 1) n ts =
      (placesFrom i ts).map fun place => (place.2, n + place.1.length)
  | n, i, [] => by rw [withinAll_nil, placesFrom_nil, List.map_nil]
  | n, i, t :: ts => by
      rw [withinAll_cons, placesFrom_cons, List.map_append, List.map_map, within_depth n t,
        withinAll_placesFrom n (i + 1) ts]
      simp only [Function.comp_def, List.length_cons, Nat.add_right_comm, Nat.add_assoc]

end

/-- A scan that counts how deep it is counts how long the addresses are. -/
theorem withinAll_depth (ts : List (Tree β)) :
    withinAll (fun n _ => n + 1) 0 ts =
      (placesAll ts).map fun place => (place.2, place.1.length) := by
  rw [withinAll_placesFrom 0 0 ts]
  simp only [Nat.zero_add, placesAll]

theorem labels_eq_map_placesAll (ts : List (Tree β)) :
    labels ts = (placesAll ts).map fun place => place.2.label := by
  rw [labels_eq_map_withinAll (fun n _ => n + 1) 0, withinAll_depth, List.map_map]
  rfl

mutual

theorem find?_eq_find? (p : β → Bool) : ∀ t : Tree β,
    find? p t = ((places t).find? fun place => p place.2.label).map (·.2)
  | node l ts => by
      rw [find?, places_node, List.find?_cons, label]
      cases h : p l with
      | true => rfl
      | false =>
          rw [findAll?_eq_findFrom? p 0 ts]
          rfl

theorem findAll?_eq_findFrom? (p : β → Bool) : ∀ (i : Nat) (ts : List (Tree β)),
    findAll? p ts = ((placesFrom i ts).find? fun place => p place.2.label).map (·.2)
  | i, [] => by rw [findAll?, placesFrom_nil, List.find?_nil, Option.map_none]
  | i, t :: ts => by
      rw [findAll?, placesFrom_cons, List.find?_append, List.find?_map, find?_eq_find? p t,
        findAll?_eq_findFrom? p (i + 1) ts]
      simp only [Function.comp_def]
      cases (places t).find? fun place => p place.2.label with
      | none => rfl
      | some place => rfl

end

/-- A search gives the first place with a match. -/
theorem findAll?_eq_find? (p : β → Bool) (ts : List (Tree β)) :
    findAll? p ts = ((placesAll ts).find? fun place => p place.2.label).map (·.2) :=
  findAll?_eq_findFrom? p 0 ts

end Tree

end Scenery
