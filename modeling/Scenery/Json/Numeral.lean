import Scenery.Json.Basic
import Scenery.Json.Fault

/-!
# Reading numerals

A numeral is an optional minus sign, digits without a leading zero, an optional
fraction and an optional exponent.  Without fraction and exponent, and within
64 bits, it is a `Number.integer`.  Any other is a `Number.real`, read in two
steps.

* The digits are gathered into a significand of 64 bits and a power of ten.
  Digits that no longer fit are dropped: of the whole part they still count in
  the power, of the fraction they do not count at all.
* The significand is multiplied or divided by the power of ten
  (`scale?`).  Each of the two operands is the nearest real number, so the
  result is the nearest one for numerals of up to fifteen digits and small
  powers, and may be off by the last place for others.  A result that is not
  finite is a fault.

Minus zero is a real number, since no integer is minus zero.

A fault says how far reading got (`Halt`): the text from there on, and how many
bytes of that text were looked at.  `numeral_length` says that a numeral takes
at least one character, which is what makes reading a value end.
-/

namespace Scenery.Json

/-- A fault, and how far reading got when it was met. -/
structure Halt where
  /-- What is wrong. -/
  fault : Fault
  /-- The text not read. -/
  rest : List Char
  /-- How many bytes of that text were looked at. -/
  seen : Nat

/-- A fault met before the next character was looked at. -/
def Halt.before (fault : Fault) (rest : List Char) : Halt := ⟨fault, rest, 0⟩

/-- A fault met in the first byte of the next character. -/
def Halt.within (fault : Fault) (rest : List Char) : Halt := ⟨fault, rest, 1⟩

/-- The value of a digit. -/
def digit (c : Char) : Nat := c.toNat - '0'.toNat

/-! ## The significand -/

/-- Read digits onto a significand while it fits 64 bits.  The result is the
significand, the number of digits taken and the rest. -/
def absorb (significand count : Nat) : List Char → Nat × Nat × List Char
  | [] => (significand, count, [])
  | c :: rest =>
      if c.isDigit && decide (significand * 10 + digit c < 0x10000000000000000) then
        absorb (significand * 10 + digit c) (count + 1) rest
      else (significand, count, c :: rest)

theorem absorb_length (significand count : Nat) (s : List Char) :
    (absorb significand count s).2.2.length ≤ s.length := by
  induction s generalizing significand count with
  | nil => simp [absorb]
  | cons c rest ih =>
      rw [absorb]
      split
      · exact Nat.le_trans (ih ..) (Nat.le_succ _)
      · exact Nat.le_refl _

theorem dropWhile_length (p : Char → Bool) (s : List Char) :
    (s.dropWhile p).length ≤ s.length := by
  induction s with
  | nil => exact Nat.le_refl _
  | cons c rest ih =>
      rw [List.dropWhile_cons]
      split
      · exact Nat.le_trans ih (Nat.le_succ _)
      · exact Nat.le_refl _

/-! ## The power of ten -/

/-- A power of ten as a real number. -/
def tenTo (power : Nat) : Float := Float.ofScientific 1 false power

/-- A real number times a power of ten, or nothing when it is not finite.  A
power outside the range of a real number is applied in steps. -/
def scale? (x : Float) (power : Int) : Option Float :=
  if power.natAbs ≤ 308 then
    if 0 ≤ power then
      let y := x * tenTo power.natAbs
      if y.isInf then none else some y
    else some (x / tenTo power.natAbs)
  else if x == 0 then some x
  else if 0 ≤ power then none
  else scale? (x / tenTo 308) (power + 308)
termination_by power.natAbs
decreasing_by omega

/-- A real number with a sign. -/
def signed (negative : Bool) (x : Float) : Float := if negative then -x else x

/-- The real number of a significand and a power of ten, `rest` being the text
after its numeral. -/
def real (negative : Bool) (significand : Nat) (power : Int) (rest : List Char) :
    Except Halt (Number × List Char) :=
  match scale? (UInt64.ofNat significand).toFloat power with
  | some x => .ok (.real (signed negative x), rest)
  | none => .error (.before .outOfRange rest)

/-! ## The parts of a numeral -/

/-- The digits of an exponent.  One that leaves 32 bits is a fault when it
makes the number large, and zero otherwise. -/
def exponentDigits (negative : Bool) (significand : Nat) (power : Int) (minus : Bool)
    (n : Nat) : List Char → Except Halt (Number × List Char)
  | [] => real negative significand (if minus then power - n else power + n) []
  | c :: rest =>
      if c.isDigit then
        if n * 10 + digit c < 0x80000000 then
          exponentDigits negative significand power minus (n * 10 + digit c) rest
        else if significand != 0 && !minus then .error (.before .outOfRange rest)
        else .ok (.real (signed negative 0), rest.dropWhile Char.isDigit)
      else real negative significand (if minus then power - n else power + n) (c :: rest)

/-- The sign of an exponent, true for minus, and the text after it. -/
def exponentSign : List Char → Bool × List Char
  | '+' :: rest => (false, rest)
  | '-' :: rest => (true, rest)
  | rest => (false, rest)

/-- What may follow the digits of a numeral: an exponent. -/
def afterDigits (negative : Bool) (significand : Nat) (power : Int) :
    List Char → Except Halt (Number × List Char)
  | [] => real negative significand power []
  | c :: rest =>
      if c = 'e' ∨ c = 'E' then
        match exponentSign rest with
        | (_, []) => .error (.before .endOfValue [])
        | (minus, d :: more) =>
            if d.isDigit then exponentDigits negative significand power minus 0 (d :: more)
            else .error (.within .invalidNumber (d :: more))
      else real negative significand power (c :: rest)

/-- What may follow the whole part of a real number: a fraction. -/
def afterWhole (negative : Bool) (significand : Nat) (power : Int) :
    List Char → Except Halt (Number × List Char)
  | '.' :: [] => .error (.before .endOfValue [])
  | '.' :: d :: more =>
      if d.isDigit then
        let (significand, count, rest) := absorb significand 0 (d :: more)
        afterDigits negative significand (power - count) (rest.dropWhile Char.isDigit)
      else .error (.within .invalidNumber (d :: more))
  | rest => afterDigits negative significand power rest

/-- A numeral without fraction and exponent. -/
def whole (negative : Bool) (significand : Nat) : Number :=
  if !negative then .integer significand
  else if significand = 0 ∨ 0x8000000000000000 < significand then
    .real (-(UInt64.ofNat significand).toFloat)
  else .integer (-significand)

/-- Whether the text goes on with what makes a numeral real. -/
def startsReal : List Char → Bool
  | c :: _ => c = '.' || c = 'e' || c = 'E' || c.isDigit
  | [] => false

/-- Read a numeral after its sign. -/
def numeral (negative : Bool) : List Char → Except Halt (Number × List Char)
  | [] => .error (.before .endOfValue [])
  | c :: rest =>
      if !c.isDigit then .error (.within .invalidNumber (c :: rest))
      else if c = '0' && (rest.head?.any Char.isDigit) then
        .error (.within .invalidNumber rest)
      else
        let (significand, _, rest) := absorb (digit c) 0 rest
        if startsReal rest then
          afterWhole negative significand (rest.takeWhile Char.isDigit).length
            (rest.dropWhile Char.isDigit)
        else .ok (whole negative significand, rest)

/-! ## A numeral takes at least one character -/

theorem real_length {negative : Bool} {significand : Nat} {power : Int} {s r : List Char}
    {x : Number} (h : real negative significand power s = .ok (x, r)) : r.length ≤ s.length := by
  unfold real at h
  split at h
  · simp_all
  · simp at h

theorem exponentDigits_length {negative : Bool} {significand : Nat} {power : Int} {minus : Bool}
    {r : List Char} {x : Number} :
    ∀ (s : List Char) (n : Nat),
      exponentDigits negative significand power minus n s = .ok (x, r) → r.length ≤ s.length
  | [], n, h => by
      rw [exponentDigits] at h
      exact real_length h
  | c :: rest, n, h => by
      rw [exponentDigits] at h
      split at h
      · split at h
        · exact Nat.le_trans (exponentDigits_length rest _ h) (Nat.le_succ _)
        · split at h
          · simp at h
          · simp only [Except.ok.injEq, Prod.mk.injEq] at h
            rw [← h.2]
            exact Nat.le_trans (dropWhile_length _ _) (Nat.le_succ _)
      · exact real_length h

theorem exponentSign_length (s : List Char) : (exponentSign s).2.length ≤ s.length := by
  unfold exponentSign
  split <;> simp

theorem afterDigits_length {negative : Bool} {significand : Nat} {power : Int}
    {s r : List Char} {x : Number}
    (h : afterDigits negative significand power s = .ok (x, r)) : r.length ≤ s.length := by
  unfold afterDigits at h
  split at h
  · exact real_length h
  · rename_i c rest
    split at h
    · split at h
      · simp at h
      · rename_i minus d more hs
        split at h
        · have h1 := exponentDigits_length _ _ h
          have h2 := exponentSign_length rest
          rw [hs] at h2
          exact Nat.le_trans h1 (Nat.le_trans h2 (Nat.le_succ _))
        · simp at h
    · exact real_length h

theorem afterWhole_length {negative : Bool} {significand : Nat} {power : Int}
    {s r : List Char} {x : Number}
    (h : afterWhole negative significand power s = .ok (x, r)) : r.length ≤ s.length := by
  unfold afterWhole at h
  split at h
  · simp at h
  · rename_i d more
    split at h
    · have h1 := afterDigits_length h
      have h2 := absorb_length significand 0 (d :: more)
      exact Nat.le_trans h1 (Nat.le_trans (dropWhile_length _ _)
        (Nat.le_trans h2 (Nat.le_succ _)))
    · simp at h
  · exact afterDigits_length h

/-- A numeral takes at least one character. -/
theorem numeral_length {negative : Bool} {s r : List Char} {x : Number}
    (h : numeral negative s = .ok (x, r)) : r.length < s.length := by
  unfold numeral at h
  split at h
  · simp at h
  · rename_i c rest
    split at h
    · simp at h
    · split at h
      · simp at h
      · have ha := absorb_length (digit c) 0 rest
        dsimp only at h
        split at h
        · have h1 := afterWhole_length h
          exact Nat.lt_succ_of_le (Nat.le_trans h1 (Nat.le_trans (dropWhile_length _ _) ha))
        · simp only [Except.ok.injEq, Prod.mk.injEq] at h
          rw [← h.2]
          exact Nat.lt_succ_of_le ha

end Scenery.Json
