import Mathlib.Tactic.Common
import Scenery.Text.Lowercase

/-!
# Lower case is settled

A text in lower case stays as it is when it is put in lower case again
(`lower_lower`).  So it makes no difference whether a name is folded once, when it is
declared, or once more, when it is put in a table.

Characters change for one of three reasons: they are in a run of `lowerRuns`, or they
are a capital sigma, which is in a run as well, or the capital `I` with a dot.  What
they change into must be none of these (`Settled`).  For the runs that is a matter of
their ends.  No run moves onto itself or another one: either all its targets lie below
or above the other run, or that one takes every other code point and the targets are
those between (`LowerRun.clears`).
-/

namespace Scenery.Text

/-! ## Runs -/

namespace LowerRun

/-- Whether a code point is in a run. -/
def holds (r : LowerRun) (n : Nat) : Bool :=
  r.first ≤ n && n ≤ r.last && (n - r.first) % r.step == 0

/-- Where the first code point of a run is moved to. -/
def firstTarget (r : LowerRun) : Nat := (r.first + r.shift).toNat

/-- Where the last code point of a run is moved to. -/
def lastTarget (r : LowerRun) : Nat := (r.last + r.shift).toNat

/-- A run is not moved onto another one, as can be seen from the ends of both. -/
def clears (r other : LowerRun) : Bool :=
  Nat.blt r.lastTarget other.first || Nat.blt other.last r.firstTarget ||
    (other.step == 2 && (r.step == 2 || r.first == r.last) &&
      (r.firstTarget + other.first) % 2 == 1)

/-- The targets of a run are characters. -/
def Lands (r : LowerRun) : Prop :=
  0 ≤ r.first + r.shift ∧
    (r.lastTarget < 0xD800 ∨ 0xE000 ≤ r.firstTarget ∧ r.lastTarget < 0x110000)

instance (r : LowerRun) : Decidable r.Lands := inferInstanceAs (Decidable (_ ∧ _))

/-- The capital `I` with a dot, which is in no run of the table. -/
def dotted : LowerRun := ⟨0x130, 0x130, 1, 0⟩

theorem clears_of_mem {r other : LowerRun} (hr : r ∈ lowerRuns)
    (ho : other ∈ dotted :: lowerRuns) : r.clears other = true := by
  have hall : (lowerRuns.all fun r => (dotted :: lowerRuns).all r.clears) = true := by
    decide +kernel
  exact List.all_eq_true.mp (List.all_eq_true.mp hall r hr) other ho

theorem lands_of_mem {r : LowerRun} (hr : r ∈ lowerRuns) : r.Lands := by
  have hall : (lowerRuns.all fun r => decide r.Lands) = true := by decide +kernel
  exact of_decide_eq_true (List.all_eq_true.mp hall r hr)

theorem holds_iff {r : LowerRun} {n : Nat} :
    r.holds n = true ↔ r.first ≤ n ∧ n ≤ r.last ∧ (n - r.first) % r.step = 0 := by
  simp only [holds, Bool.and_eq_true, decide_eq_true_eq, beq_iff_eq, and_assoc]

/-- What is moved from a run does not come into a run that it clears. -/
theorem not_holds_target {r other : LowerRun} {n : Nat} (hland : r.Lands) (hn : r.holds n = true)
    (hclear : r.clears other = true) : other.holds (n + r.shift).toNat = false := by
  rw [Bool.eq_false_iff, Ne, holds_iff]
  rintro ⟨hfirst, hlast, hstep⟩
  obtain ⟨hn, hn', hstep'⟩ := holds_iff.mp hn
  obtain ⟨hpos, -⟩ := hland
  simp only [clears, firstTarget, lastTarget, Bool.or_eq_true, Bool.and_eq_true, Nat.blt_eq,
    beq_iff_eq] at hclear
  rcases hclear with (hbelow | habove) | ⟨⟨htwo, hpart⟩, hodd⟩
  · omega
  · omega
  · rw [htwo] at hstep
    rcases hpart with htwo' | hone
    · rw [htwo'] at hstep'
      omega
    · omega

/-- The target of a code point of a run is a character. -/
theorem toNat_target {r : LowerRun} {n : Nat} (hland : r.Lands) (hn : r.holds n = true) :
    (Char.ofNat (n + r.shift).toNat).toNat = (n + r.shift).toNat := by
  obtain ⟨hn, hn', -⟩ := holds_iff.mp hn
  obtain ⟨hpos, hend⟩ := hland
  unfold firstTarget lastTarget at hend
  have hvalid : (n + r.shift).toNat.isValidChar := by
    unfold Nat.isValidChar
    omega
  rw [Char.ofNat, dif_pos hvalid]
  rfl

end LowerRun

/-! ## Characters -/

/-- A character that lower case leaves as it is, wherever it stands. -/
def Settled (c : Char) : Prop := ∀ r ∈ LowerRun.dotted :: lowerRuns, r.holds c.toNat = false

instance (c : Char) : Decidable (Settled c) :=
  decidable_of_iff (((LowerRun.dotted :: lowerRuns).all fun r => !r.holds c.toNat) = true)
    (by simp only [Settled, List.all_eq_true, Bool.not_eq_true'])

/-- A character whose form is another one is in a run. -/
theorem exists_run_or_lowerChar_eq (c : Char) :
    (∃ r ∈ lowerRuns, r.holds c.toNat = true ∧
      lowerChar c = Char.ofNat (c.toNat + r.shift).toNat) ∨
    (∀ r ∈ lowerRuns, r.holds c.toNat = false) ∧ lowerChar c = c := by
  rw [lowerChar]
  split
  next r hfind =>
    have hholds := List.find?_some hfind
    exact .inl ⟨r, List.mem_of_find?_eq_some hfind, hholds, rfl⟩
  next hfind =>
    exact .inr ⟨fun r hr => Bool.eq_false_iff.mpr (List.find?_eq_none.mp hfind r hr), rfl⟩

theorem Settled.lowerChar_eq {c : Char} (h : Settled c) : lowerChar c = c := by
  rcases exists_run_or_lowerChar_eq c with ⟨r, hr, hholds, -⟩ | ⟨-, heq⟩
  · rw [h r (List.mem_cons_of_mem _ hr)] at hholds
    cases hholds
  · exact heq

theorem Settled.lowerAt_eq {c : Char} (h : Settled c) (before after : List Char) :
    lowerAt before c after = [c] := by
  have hsigma : c ≠ 'Σ' := by
    rintro rfl
    exact absurd h (by decide +kernel)
  have hdotted : c ≠ 'İ' := by
    rintro rfl
    exact absurd h (by decide +kernel)
  rw [lowerAt, if_neg hsigma, if_neg hdotted, h.lowerChar_eq]

theorem settled_lowerChar {c : Char} (hdotted : c ≠ 'İ') : Settled (lowerChar c) := by
  rcases exists_run_or_lowerChar_eq c with ⟨r, hr, hholds, heq⟩ | ⟨hnone, heq⟩
  · intro other hother
    rw [heq, LowerRun.toNat_target (LowerRun.lands_of_mem hr) hholds]
    exact LowerRun.not_holds_target (LowerRun.lands_of_mem hr) hholds
      (LowerRun.clears_of_mem hr hother)
  · rw [heq]
    refine List.forall_mem_cons.mpr ⟨Bool.eq_false_iff.mpr fun hholds => hdotted ?_, hnone⟩
    have hrange := LowerRun.holds_iff.mp hholds
    exact Char.toNat_inj.mp (Nat.le_antisymm hrange.2.1 hrange.1)

theorem settled_of_mem_lowerAt {before after : List Char} {c d : Char}
    (h : d ∈ lowerAt before c after) : Settled d := by
  unfold lowerAt at h
  split at h
  next =>
    rw [List.mem_singleton.mp h]
    split
    · decide +kernel
    · decide +kernel
  next =>
    split at h
    next =>
      have hi : Settled 'i' := by decide +kernel
      have hdot : Settled '\u0307' := by decide +kernel
      exact List.forall_mem_cons.mpr ⟨hi, List.forall_mem_singleton.mpr hdot⟩ d h
    next hdotted =>
      rw [List.mem_singleton.mp h]
      exact settled_lowerChar hdotted

/-! ## Texts -/

theorem settled_of_mem_lowerAll {d : Char} {text : List Char} :
    ∀ {before : List Char}, d ∈ lowerAll before text → Settled d := by
  induction text with
  | nil =>
      intro before h
      cases h
  | cons c after ih =>
      intro before h
      rcases List.mem_append.mp h with h | h
      · exact settled_of_mem_lowerAt h
      · exact ih h

theorem lowerAll_of_settled {text : List Char} (h : ∀ c ∈ text, Settled c) :
    ∀ before : List Char, lowerAll before text = text := by
  induction text with
  | nil => exact fun _ => rfl
  | cons c after ih =>
      intro before
      obtain ⟨hc, hafter⟩ := List.forall_mem_cons.mp h
      rw [lowerAll, hc.lowerAt_eq, ih hafter, List.singleton_append]

/-- A text in lower case stays as it is in lower case. -/
@[simp] theorem lower_lower (s : String) : lower (lower s) = lower s := by
  unfold lower
  rw [String.toList_ofList, lowerAll_of_settled fun _ => settled_of_mem_lowerAll]

end Scenery.Text
