/-!
# File paths

A document names files relative to its own directory.  Paths are texts, joined
and cut at slashes and never looked up.

* `resolve` puts a relative path below a base directory.  An absolute path
  stays as it is, and so does any path without a base.
* `directory` and `stem` are read off the path of the document: the directory
  it lies in and its file name without the last extension.

A path is an *anchor* and the *parts* that follow it.  The anchor is the slash
of an absolute path, or the point of a path that names the current directory
first.  Past the anchor a part that is empty or a single point leads nowhere, so
the *last part* of a path is the last that leads somewhere.  The parts that
stand before it are kept as they are written.
-/

namespace Scenery.Text.Path

/-- Whether a path starts at the root. -/
def isAbsolute (path : String) : Bool := path.toList.head? == some '/'

/-- A path below a base directory.  Nothing but the one slash between them is
added or taken away. -/
def join (base path : String) : String :=
  if isAbsolute path || base.isEmpty then path
  else if base.toList.getLast? == some '/' then base ++ path
  else base ++ "/" ++ path

/-- A path below a base directory, if there is one. -/
def resolve (base : Option String) (path : String) : String :=
  match base with
  | some base => join base path
  | none => path

/-! ## Parts -/

/-- The place a path starts from. -/
inductive Anchor where
  /-- The root. -/
  | root
  /-- The current directory, by name. -/
  | here
  /-- The current directory, not named. -/
  | unnamed
deriving DecidableEq, Repr

/-- An anchor as it is written. -/
def Anchor.text : Anchor → List Char
  | .root => ['/']
  | .here => ['.']
  | .unnamed => []

/-- The anchor of a path, and what follows it. -/
def anchored : List Char → Anchor × List Char
  | '/' :: rest => (.root, rest)
  | ['.'] => (.here, [])
  | '.' :: '/' :: rest => (.here, '/' :: rest)
  | rest => (.unnamed, rest)

/-- Nothing is lost between an anchor and what follows it. -/
theorem text_append_anchored (path : List Char) :
    (anchored path).1.text ++ (anchored path).2 = path := by
  unfold anchored
  split <;> rfl

/-- The stretches of a text between its slashes. -/
def parts : List Char → List (List Char)
  | [] => [[]]
  | c :: rest =>
      if c = '/' then [] :: parts rest
      else
        match parts rest with
        | [] => [[c]]
        | part :: others => (c :: part) :: others

/-- A text of the stretches between its slashes. -/
def ofParts : List (List Char) → List Char
  | [] => []
  | [part] => part
  | part :: others => part ++ '/' :: ofParts others

theorem parts_ne_nil (text : List Char) : parts text ≠ [] := by
  cases text with
  | nil => simp [parts]
  | cons c rest =>
    unfold parts
    split
    · simp
    · split <;> simp

/-- The parts of a text make up the text. -/
theorem ofParts_parts (text : List Char) : ofParts (parts text) = text := by
  induction text with
  | nil => rfl
  | cons c rest ih =>
    unfold parts
    cases h : parts rest with
    | nil => exact absurd h (parts_ne_nil rest)
    | cons part others =>
      rw [h] at ih
      by_cases hc : c = '/'
      · simp [hc, ofParts, ih]
      · cases others <;> simp_all [ofParts]

/-- Whether a part leads nowhere. -/
def isIdle (part : List Char) : Bool := part == [] || part == ['.']

/-- The parts of a path past its anchor, from the last one that leads somewhere
back to the first. -/
def partsFromLast (path : List Char) : List (List Char) :=
  (parts (anchored path).2).reverse.dropWhile isIdle

/-! ## Directory and name -/

/-- The directory a path lies in: empty for a bare file name, and nothing for
the root and the empty path. -/
def directory (path : String) : Option String :=
  let anchor := (anchored path.toList).1
  match partsFromLast path.toList with
  | _ :: before =>
      some (String.ofList (anchor.text ++ ofParts (before.dropWhile isIdle).reverse))
  | [] => if anchor = .here then some "" else none

/-- The last part of a path.  A step up is not a name. -/
def fileName? (path : String) : Option (List Char) :=
  match partsFromLast path.toList with
  | last :: _ => if last = ['.', '.'] then none else some last
  | [] => none

/-- The last part of a path without its extension, the part from the last point
on.  A point at the start does not begin an extension. -/
def stem (path : String) : Option String :=
  (fileName? path).map fun name =>
    let front := (name.reverse.dropWhile (· ≠ '.')).drop 1
    String.ofList (if front = [] then name else front.reverse)

example : join "scenes" "wood.png" = "scenes/wood.png" := by decide +kernel
example : directory "scenes/park.json" = some "scenes" := by decide +kernel
example : directory "scenes/./park.json" = some "scenes" := by decide +kernel
example : directory "./park.json" = some "." := by decide +kernel
example : directory "/park.json" = some "/" := by decide +kernel
example : directory "park.json" = some "" := by decide +kernel
example : directory "/" = none := by decide +kernel
example : stem "a.b.c" = some "a.b" := by decide +kernel
example : stem ".json" = some ".json" := by decide +kernel
example : stem "scenes/.." = none := by decide +kernel

end Scenery.Text.Path
