import Scenery.Json.Numeral

/-!
# Reading JSON

`Json.parse` reads a whole text as one value.  It reads from the left, keeps
nothing but the rest of the text, and stops at the first fault.

* Blanks are the space, the tab, the line feed and the carriage return.
* A string holds no control character.  Its escapes are those of JSON, and a
  surrogate outside the basic plane is written as a pair.
* Arrays and objects nest at most 127 deep.  `value` counts down the levels that
  are left.
* A key that is written twice keeps its first place and its last value
  (`Json.put`).

Every reader returns the rest of the text with the fact that it is shorter, and
that is why reading ends.
-/

namespace Scenery.Json

/-- The blanks between the parts of a value. -/
def isBlank (c : Char) : Bool := c = ' ' || c = '\t' || c = '\n' || c = '\r'

/-- The text after any blanks. -/
def skipBlanks (s : List Char) : List Char := s.dropWhile isBlank

theorem skipBlanks_length (s : List Char) : (skipBlanks s).length ≤ s.length :=
  dropWhile_length _ _

/-- A reader's result on `s`: a value and a rest that is shorter than `s`. -/
abbrev Taken (β : Type) (s : List Char) : Type :=
  Except Halt (β × { rest : List Char // rest.length < s.length })

/-! ## Strings -/

/-- The value of a hexadecimal digit. -/
def hexDigit? (c : Char) : Option Nat :=
  if c.isDigit then some (digit c)
  else if 'a' ≤ c ∧ c ≤ 'f' then some (c.toNat - 'a'.toNat + 10)
  else if 'A' ≤ c ∧ c ≤ 'F' then some (c.toNat - 'A'.toNat + 10)
  else none

/-- The value of four hexadecimal digits. -/
def hexWord? (a b c d : Char) : Option Nat := do
  let a ← hexDigit? a
  let b ← hexDigit? b
  let c ← hexDigit? c
  let d ← hexDigit? d
  return ((a * 16 + b) * 16 + c) * 16 + d

/-- The fault of four bytes that are not four hexadecimal digits. -/
def badHex (rest : List Char) : Halt :=
  if byteCount rest < 4 then .before .endOfString []
  else ⟨.invalidEscape, rest, 4⟩

/-- The character an escape of one letter stands for. -/
def escaped? (c : Char) : Option Char :=
  if c = '"' then some '"'
  else if c = '\\' then some '\\'
  else if c = '/' then some '/'
  else if c = 'b' then some '\x08'
  else if c = 'f' then some '\x0c'
  else if c = 'n' then some '\n'
  else if c = 'r' then some '\r'
  else if c = 't' then some '\t'
  else none

/-- Whether a code unit is the second of a pair. -/
def isTrailing (n : Nat) : Bool := 0xDC00 ≤ n && n ≤ 0xDFFF

/-- Whether a code unit is the first of a pair. -/
def isLeading (n : Nat) : Bool := 0xD800 ≤ n && n ≤ 0xDBFF

/-- The character of a pair of code units. -/
def paired (n m : Nat) : Char := Char.ofNat (0x10000 + (n - 0xD800) * 0x400 + (m - 0xDC00))

/-- Read a string after its opening quote.  `acc` holds what was read, last
character first. -/
def text (acc : List Char) : List Char → Except Halt (String × List Char)
  | [] => .error (.before .endOfString [])
  | '"' :: rest => .ok (String.ofList acc.reverse, rest)
  | '\\' :: [] => .error (.before .endOfString [])
  | '\\' :: 'u' :: a :: b :: c :: d :: rest =>
      match hexWord? a b c d with
      | none => .error (badHex (a :: b :: c :: d :: rest))
      | some n =>
          if isTrailing n then .error (.before .loneSurrogate rest)
          else if isLeading n then
            match rest with
            | [] => .error (.before .endOfString [])
            | '\\' :: [] => .error (.before .endOfString [])
            | '\\' :: 'u' :: e :: f :: g :: h :: rest =>
                match hexWord? e f g h with
                | none => .error (badHex (e :: f :: g :: h :: rest))
                | some m =>
                    if isTrailing m then text (paired n m :: acc) rest
                    else .error (.before .loneSurrogate rest)
            | '\\' :: 'u' :: rest => .error (badHex rest)
            | '\\' :: rest => .error (.within .endOfHexEscape rest)
            | rest => .error (.within .endOfHexEscape rest)
          else text (Char.ofNat n :: acc) rest
  | '\\' :: 'u' :: rest => .error (badHex rest)
  | '\\' :: c :: rest =>
      match escaped? c with
      | some c => text (c :: acc) rest
      | none => .error (.within .invalidEscape (c :: rest))
  | c :: rest =>
      if c < ' ' then .error (.within .controlCharacter (c :: rest)) else text (c :: acc) rest

/-- A string takes at least its closing quote. -/
theorem text_length {acc : List Char} {s r : List Char} {t : String}
    (h : text acc s = .ok (t, r)) : r.length < s.length := by
  fun_induction text acc s <;> simp_all <;> omega

/-! ## Values -/

/-- Read the rest of a literal, whose letters are `letters`. -/
def literal (value : Json) : List Char → List Char → Except Halt (Json × List Char)
  | [], rest => .ok (value, rest)
  | _ :: _, [] => .error (.before .endOfValue [])
  | l :: letters, c :: rest =>
      if c = l then literal value letters rest else .error (.within .expectedIdent (c :: rest))

theorem literal_length {value v : Json} {r : List Char} :
    ∀ {letters s : List Char}, literal value letters s = .ok (v, r) → r.length ≤ s.length
  | [], s, h => by
      simp only [literal, Except.ok.injEq, Prod.mk.injEq] at h
      exact Nat.le_of_eq (congrArg List.length h.2.symm)
  | _ :: _, [], h => by simp [literal] at h
  | l :: letters, c :: rest, h => by
      rw [literal] at h
      split at h
      · exact Nat.le_trans (literal_length h) (Nat.le_succ _)
      · simp at h

/-- What a reader took, once its rest is known to be shorter. -/
def taken {β γ : Type} {s : List Char} (f : β → γ) (r : Except Halt (β × List Char))
    (h : ∀ x rest, r = .ok (x, rest) → rest.length < s.length) : Taken γ s :=
  match r, h with
  | .error e, _ => .error e
  | .ok (x, rest), h => .ok (f x, ⟨rest, h x rest rfl⟩)

/-- The opening quote of a key, and what is wrong without one.  `first` says
that no member was read before. -/
def keyFault (rest : List Char) (first : Bool) : Halt :=
  match rest with
  | [] => .before .endOfValue []
  | c :: _ => if c = '}' ∧ first = false then .within .trailingComma rest
      else .within .keyNotString rest

mutual

/-- Read a value, `depth` levels of nesting being left. -/
def value (depth : Nat) (s : List Char) : Taken Json s :=
  match hs : skipBlanks s with
  | [] => .error (.before .endOfValue [])
  | c :: rest =>
      have hlt : rest.length < s.length := by
        have := skipBlanks_length s
        rw [hs] at this
        exact this
      if c = 'n' then
        taken id (literal .null "ull".toList rest)
          fun _ _ h => Nat.lt_of_le_of_lt (literal_length h) hlt
      else if c = 't' then
        taken id (literal (.bool true) "rue".toList rest)
          fun _ _ h => Nat.lt_of_le_of_lt (literal_length h) hlt
      else if c = 'f' then
        taken id (literal (.bool false) "alse".toList rest)
          fun _ _ h => Nat.lt_of_le_of_lt (literal_length h) hlt
      else if c = '"' then
        taken .string (text [] rest) fun _ _ h => Nat.lt_trans (text_length h) hlt
      else if c = '-' then
        taken .number (numeral true rest) fun _ _ h => Nat.lt_trans (numeral_length h) hlt
      else if c.isDigit then
        taken .number (numeral false (c :: rest)) fun _ _ h => by
          have h1 := numeral_length h
          have h2 := skipBlanks_length s
          rw [hs] at h2
          exact Nat.lt_of_lt_of_le h1 h2
      else if c = '[' then
        match depth with
        | 0 => .error (.within .tooDeep (c :: rest))
        | depth + 1 =>
            match items depth true [] rest with
            | .error e => .error e
            | .ok (xs, ⟨after, h⟩) => .ok (.array xs, ⟨after, Nat.lt_trans h hlt⟩)
      else if c = '{' then
        match depth with
        | 0 => .error (.within .tooDeep (c :: rest))
        | depth + 1 =>
            match members depth true [] rest with
            | .error e => .error e
            | .ok (ms, ⟨after, h⟩) => .ok (.object ms, ⟨after, Nat.lt_trans h hlt⟩)
      else .error (.within .expectedValue (c :: rest))
termination_by (s.length, 0)

/-- Read the items of an array and its closing bracket.  `first` says that
none was read yet, `acc` holds those that were, last one first. -/
def items (depth : Nat) (first : Bool) (acc : List Json) (s : List Char) :
    Taken (List Json) s :=
  match hs : skipBlanks s with
  | [] => .error (.before .endOfList [])
  | c :: rest =>
      have hrest : rest.length < s.length := by
        have := skipBlanks_length s
        rw [hs] at this
        exact this
      if c = ']' then .ok (acc.reverse, ⟨rest, hrest⟩)
      else if first then
        match value depth s with
        | .error e => .error e
        | .ok (x, ⟨after, hlt⟩) =>
            match items depth false (x :: acc) after with
            | .error e => .error e
            | .ok (xs, ⟨after, h⟩) => .ok (xs, ⟨after, Nat.lt_trans h hlt⟩)
      else if c = ',' then
        match skipBlanks rest with
        | [] => .error (.before .endOfValue [])
        | ']' :: more => .error (.within .trailingComma (']' :: more))
        | _ :: _ =>
            match value depth rest with
            | .error e => .error e
            | .ok (x, ⟨after, h⟩) =>
                have hlt : after.length < s.length := Nat.lt_trans h hrest
                match items depth false (x :: acc) after with
                | .error e => .error e
                | .ok (xs, ⟨after, h⟩) => .ok (xs, ⟨after, Nat.lt_trans h hlt⟩)
      else .error (.within .expectedListEnd (c :: rest))
termination_by (s.length, 1)

/-- Read the members of an object and its closing brace.  `first` says that
none was read yet, `acc` holds those that were. -/
def members (depth : Nat) (first : Bool) (acc : Members) (s : List Char) :
    Taken Members s :=
  match hs : skipBlanks s with
  | [] => .error (.before .endOfObject [])
  | c :: rest =>
      have hrest : rest.length < s.length := by
        have := skipBlanks_length s
        rw [hs] at this
        exact this
      if c = '}' then .ok (acc, ⟨rest, hrest⟩)
      else if first = false ∧ c ≠ ',' then .error (.within .expectedObjectEnd (c :: rest))
      else
        match hk : (if first then c :: rest else skipBlanks rest) with
        | '"' :: key =>
            match ht : text [] key with
            | .error e => .error e
            | .ok (name, after) =>
                match hc : skipBlanks after with
                | [] => .error (.before .endOfObject [])
                | ':' :: body =>
                    have hbody : body.length < s.length := by
                      have h1 := text_length ht
                      have h2 := skipBlanks_length after
                      have h3 := skipBlanks_length rest
                      rw [hc] at h2
                      split at hk
                      · simp_all
                        omega
                      · rw [hk] at h3
                        simp only [List.length_cons] at h2 h3
                        omega
                    match value depth body with
                    | .error e => .error e
                    | .ok (x, ⟨after, h⟩) =>
                        have hlt : after.length < s.length := Nat.lt_trans h hbody
                        match members depth false (put name x acc) after with
                        | .error e => .error e
                        | .ok (ms, ⟨after, h⟩) => .ok (ms, ⟨after, Nat.lt_trans h hlt⟩)
                | other => .error (.within .expectedColon other)
        | other => .error (keyFault other first)
termination_by (s.length, 1)

end

/-! ## Texts -/

/-- The levels of nesting a text may use. -/
def maxDepth : Nat := 127

/-- Read the characters of a text as one value with nothing but blanks after it. -/
def whole? (s : List Char) : Except Halt Json :=
  match value maxDepth s with
  | .error e => .error e
  | .ok (x, rest) =>
      match skipBlanks rest.1 with
      | [] => .ok x
      | more => .error (.within .trailingCharacters more)

/-- Where a text stopped being readable. -/
def Halt.locate (text : List Char) (halt : Halt) : ReadError :=
  let size := byteCount text
  let left := byteCount halt.rest
  ⟨halt.fault, Place.after (min size (size - left + halt.seen)) text⟩

/-- Read a text as one value. -/
def parse (source : String) : Except ReadError Json :=
  let s := source.toList
  match whole? s with
  | .ok x => .ok x
  | .error halt => .error (halt.locate s)

end Scenery.Json
