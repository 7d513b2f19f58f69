import Scenery.Tree

/-!
# The trees within a tree

`scan` lists the labels of a tree with what comes down to each.  `within` lists
the trees at the same places instead, so it also tells what is below a place.
The one is the image of the other (`scan_eq_map_within`), so what is known of the
places of a tree is known of its labels.

The list has one item for each place, the top first.  `mem_withinAll_of_child` goes
down from a place to the ones right below it, and each place is come to in this
way.  So what is to be known of all places follows by induction along the ways to
them (`withinAll_induction`).
-/

namespace Scenery

namespace Tree

variable {β γ : Type} {f : γ → β → γ} {c : γ}

mutual

/-- The trees within a tree from the top down, each with what comes down to its
label. -/
def within (f : γ → β → γ) (c : γ) : Tree β → List (Tree β × γ)
  | node l ts => (node l ts, f c l) :: withinAll f (f c l) ts

/-- The trees within several trees, one tree after another. -/
def withinAll (f : γ → β → γ) (c : γ) : List (Tree β) → List (Tree β × γ)
  | [] => []
  | t :: ts => within f c t ++ withinAll f c ts

end

theorem withinAll_nil : withinAll f c [] = [] := by rw [withinAll]

theorem withinAll_cons (t : Tree β) (ts : List (Tree β)) :
    withinAll f c (t :: ts) = within f c t ++ withinAll f c ts := by rw [withinAll]

theorem within_node (l : β) (ts : List (Tree β)) :
    within f c (node l ts) = (node l ts, f c l) :: withinAll f (f c l) ts := by rw [within]

/-! ## Labels -/

mutual

theorem scan_eq_map_within (f : γ → β → γ) (c : γ) :
    ∀ t : Tree β, scan f c t = (within f c t).map fun place => (place.1.label, place.2)
  | node l ts => by
      rw [scan, within_node, List.map_cons, scanAll_eq_map_withinAll f (f c l) ts, label]

theorem scanAll_eq_map_withinAll (f : γ → β → γ) (c : γ) :
    ∀ ts : List (Tree β),
      scanAll f c ts = (withinAll f c ts).map fun place => (place.1.label, place.2)
  | [] => by rw [scanAll, withinAll_nil, List.map_nil]
  | t :: ts => by
      rw [scanAll, withinAll_cons, List.map_append, scan_eq_map_within f c t,
        scanAll_eq_map_withinAll f c ts]

end

/-! ## What comes down -/

mutual

theorem within_image {δ : Type} {g : δ → β → δ} {h : γ → δ}
    (step : ∀ e l, h (f e l) = g (h e) l) :
    ∀ {c : γ} (t : Tree β),
      within g (h c) t = (within f c t).map fun place => (place.1, h place.2)
  | c, node l ts => by
      rw [within_node, within_node, List.map_cons, ← step, withinAll_image step]

/-- Values that come down in step with others are listed at the same places. -/
theorem withinAll_image {δ : Type} {g : δ → β → δ} {h : γ → δ}
    (step : ∀ e l, h (f e l) = g (h e) l) :
    ∀ {c : γ} (ts : List (Tree β)),
      withinAll g (h c) ts = (withinAll f c ts).map fun place => (place.1, h place.2)
  | c, [] => by rw [withinAll_nil, withinAll_nil, List.map_nil]
  | c, t :: ts => by
      rw [withinAll_cons, withinAll_cons, List.map_append, within_image step,
        withinAll_image step]

end

/-- Values that come down in step with others are listed with the same labels. -/
theorem scanAll_image {δ : Type} {g : δ → β → δ} {h : γ → δ}
    (step : ∀ e l, h (f e l) = g (h e) l) (ts : List (Tree β)) :
    scanAll g (h c) ts = (scanAll f c ts).map fun item => (item.1, h item.2) := by
  rw [scanAll_eq_map_withinAll, scanAll_eq_map_withinAll, withinAll_image step, List.map_map,
    List.map_map]
  rfl

/-- The labels of trees are those of the trees within them. -/
theorem labels_eq_map_withinAll (f : γ → β → γ) (c : γ) (ts : List (Tree β)) :
    labels ts = (withinAll f c ts).map fun place => place.1.label := by
  have hunit : withinAll (fun _ _ => ()) () ts =
      (withinAll f c ts).map fun place => (place.1, ()) :=
    withinAll_image (h := fun _ => ()) (fun _ _ => rfl) ts
  unfold labels
  rw [scanAll_eq_map_withinAll, hunit, List.map_map, List.map_map]
  rfl

theorem label_mem_labels {ts : List (Tree β)} {t : Tree β} {e : γ}
    (h : (t, e) ∈ withinAll f c ts) : t.label ∈ labels ts := by
  rw [labels_eq_map_withinAll f c]
  exact List.mem_map_of_mem (f := fun place => place.1.label) h

theorem map_fst_scanAll (f : γ → β → γ) (c : γ) (ts : List (Tree β)) :
    (scanAll f c ts).map (·.1) = labels ts := by
  rw [scanAll_eq_map_withinAll, labels_eq_map_withinAll f c, List.map_map]
  rfl

theorem labels_nil : labels ([] : List (Tree β)) = [] := by rw [labels, scanAll, List.map_nil]

/-- The labels below the top of a tree come before those of the trees after it. -/
theorem labels_cons (l : β) (inner ts : List (Tree β)) :
    labels (node l inner :: ts) = l :: (labels inner ++ labels ts) := by
  simp only [labels, scanAll, scan, List.cons_append, List.map_cons, List.map_append]

/-! ## Other labels -/

mutual

/-- A tree of the same form with other labels. -/
def map {δ : Type} (f : β → δ) : Tree β → Tree δ
  | node l ts => node (f l) (mapAll f ts)

/-- Trees of the same form with other labels. -/
def mapAll {δ : Type} (f : β → δ) : List (Tree β) → List (Tree δ)
  | [] => []
  | t :: ts => map f t :: mapAll f ts

end

theorem mapAll_nil {δ : Type} (f : β → δ) : mapAll f [] = [] := by rw [mapAll]

theorem mapAll_cons {δ : Type} (f : β → δ) (l : β) (inner ts : List (Tree β)) :
    mapAll f (node l inner :: ts) = node (f l) (mapAll f inner) :: mapAll f ts := by
  rw [mapAll, map]

/-- Other labels are listed in the same order. -/
theorem labels_mapAll {δ : Type} (f : β → δ) :
    ∀ ts : List (Tree β), labels (mapAll f ts) = (labels ts).map f
  | [] => by rw [mapAll_nil, labels_nil, labels_nil, List.map_nil]
  | node l inner :: ts => by
      rw [mapAll_cons, labels_cons, labels_cons, labels_mapAll f inner, labels_mapAll f ts,
        List.map_cons, List.map_append]

/-! ## Going down and up -/

/-- The top of each of several trees is a place. -/
theorem mem_withinAll_of_mem {ts : List (Tree β)} {t : Tree β} (h : t ∈ ts) :
    (t, f c t.label) ∈ withinAll f c ts := by
  induction ts with
  | nil => cases h
  | cons first rest ih =>
      rw [withinAll_cons]
      rcases List.mem_cons.mp h with rfl | hrest
      · apply List.mem_append_left
        cases t with
        | node l inner =>
            rw [within_node]
            exact List.mem_cons_self ..
      · exact List.mem_append_right _ (ih hrest)

mutual

/-- Right below a place are the places of its children. -/
theorem mem_within_of_child {t s : Tree β} {e : γ} (hs : s ∈ t.children) :
    ∀ {whole : Tree β} {c : γ}, (t, e) ∈ within f c whole → (s, f e s.label) ∈ within f c whole
  | node l ts, c, h => by
      rw [within_node] at h ⊢
      rcases List.mem_cons.mp h with htop | hbelow
      · cases htop
        exact List.mem_cons_of_mem _ (mem_withinAll_of_mem hs)
      · exact List.mem_cons_of_mem _ (mem_withinAll_of_child hs hbelow)

theorem mem_withinAll_of_child {t s : Tree β} {e : γ} (hs : s ∈ t.children) :
    ∀ {ts : List (Tree β)} {c : γ}, (t, e) ∈ withinAll f c ts →
      (s, f e s.label) ∈ withinAll f c ts
  | [], c, h => by
      rw [withinAll_nil] at h
      cases h
  | first :: rest, c, h => by
      rw [withinAll_cons] at h ⊢
      rcases List.mem_append.mp h with hfirst | hrest
      · exact List.mem_append_left _ (mem_within_of_child hs hfirst)
      · exact List.mem_append_right _ (mem_withinAll_of_child hs hrest)

end

mutual

theorem within_induction {P : Tree β → γ → Prop}
    (child : ∀ t e, P t e → ∀ s ∈ t.children, P s (f e s.label)) :
    ∀ {whole : Tree β} {c : γ}, P whole (f c whole.label) →
      ∀ place ∈ within f c whole, P place.1 place.2
  | node l ts, c, htop, place, h => by
      rw [within_node] at h
      rcases List.mem_cons.mp h with rfl | hbelow
      · exact htop
      · exact withinAll_induction child (fun t ht => child _ _ htop t ht) place hbelow

/-- What holds of the tops, and of a child of a place of which it holds, holds of
all places. -/
theorem withinAll_induction {P : Tree β → γ → Prop}
    (child : ∀ t e, P t e → ∀ s ∈ t.children, P s (f e s.label)) :
    ∀ {ts : List (Tree β)} {c : γ}, (∀ t ∈ ts, P t (f c t.label)) →
      ∀ place ∈ withinAll f c ts, P place.1 place.2
  | [], c, _, place, h => by
      rw [withinAll_nil] at h
      cases h
  | first :: rest, c, htops, place, h => by
      rw [withinAll_cons] at h
      rcases List.mem_append.mp h with hfirst | hrest
      · exact within_induction child (htops first (List.mem_cons_self ..)) place hfirst
      · exact withinAll_induction child (fun t ht => htops t (List.mem_cons_of_mem _ ht)) place
          hrest

end

/-- What holds of the value at the start, and is kept by each label on the way down,
holds of all that comes down. -/
theorem scanAll_invariant {P : γ → Prop} {ts : List (Tree β)} (start : P c)
    (step : ∀ l ∈ labels ts, ∀ e, P e → P (f e l)) : ∀ item ∈ scanAll f c ts, P item.2 := by
  have hall : ∀ place ∈ withinAll f c ts, place ∈ withinAll f c ts ∧ P place.2 := by
    refine withinAll_induction (P := fun t e => (t, e) ∈ withinAll f c ts ∧ P e) ?_ ?_
    · intro t e h s hs
      have hmem := mem_withinAll_of_child hs h.1
      exact ⟨hmem, step _ (label_mem_labels hmem) e h.2⟩
    · intro t ht
      have hmem := mem_withinAll_of_mem (f := f) (c := c) ht
      exact ⟨hmem, step _ (label_mem_labels hmem) c start⟩
  intro item h
  rw [scanAll_eq_map_withinAll] at h
  obtain ⟨place, hplace, rfl⟩ := List.mem_map.mp h
  exact (hall place hplace).2

/-- A place is a top or right below another place. -/
theorem mem_withinAll_cases {ts : List (Tree β)} {s : Tree β} {e : γ}
    (h : (s, e) ∈ withinAll f c ts) :
    (s ∈ ts ∧ e = f c s.label) ∨
      ∃ t a, (t, a) ∈ withinAll f c ts ∧ s ∈ t.children ∧ e = f a s.label := by
  have hboth : (s, e) ∈ withinAll f c ts ∧ ((s ∈ ts ∧ e = f c s.label) ∨
      ∃ t a, (t, a) ∈ withinAll f c ts ∧ s ∈ t.children ∧ e = f a s.label) := by
    refine withinAll_induction
      (P := fun s e => (s, e) ∈ withinAll f c ts ∧ ((s ∈ ts ∧ e = f c s.label) ∨
        ∃ t a, (t, a) ∈ withinAll f c ts ∧ s ∈ t.children ∧ e = f a s.label)) ?_ ?_ _ h
    · intro t a ht s hs
      exact ⟨mem_withinAll_of_child hs ht.1, Or.inr ⟨t, a, ht.1, hs, rfl⟩⟩
    · intro t ht
      exact ⟨mem_withinAll_of_mem ht, Or.inl ⟨ht, rfl⟩⟩
  exact hboth.2

/-- What is below a place is below the tops. -/
theorem mem_withinAll_of_below {ts : List (Tree β)} {t : Tree β} {e : γ}
    (h : (t, e) ∈ withinAll f c ts) :
    ∀ place ∈ withinAll f e t.children, place ∈ withinAll f c ts :=
  withinAll_induction (P := fun s a => (s, a) ∈ withinAll f c ts)
    (fun _ _ ht _ hs => mem_withinAll_of_child hs ht)
    (fun _ hs => mem_withinAll_of_child hs h)

/-! ## Lines -/

/-- A line of labels leads from a top of some trees down to a tree within them, whose label
is the last of the line. -/
inductive Leads (ts : List (Tree β)) : List β → Tree β → Prop
  | top {t : Tree β} : t ∈ ts → Leads ts [t.label] t
  | down {line : List β} {t s : Tree β} :
      Leads ts line t → s ∈ t.children → Leads ts (line ++ [s.label]) s

/-- What comes down to a place when all labels are kept are the lines that lead to it. -/
theorem mem_withinAll_iff_leads {ts : List (Tree β)} {t : Tree β} {line : List β} :
    (t, line) ∈ withinAll (fun line l => line ++ [l]) [] ts ↔ Leads ts line t := by
  constructor
  · intro h
    exact withinAll_induction (P := fun t line => Leads ts line t)
      (fun _ _ ht _ hs => ht.down hs) (fun _ ht => .top ht) _ h
  · intro h
    induction h with
    | top ht => exact mem_withinAll_of_mem ht
    | down _ hs ih => exact mem_withinAll_of_child hs ih

end Tree

end Scenery
