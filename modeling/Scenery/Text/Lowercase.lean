import Scenery.Text.Case

/-!
# Lower case

Names of materials and textures are compared in lower case.  `lower` follows
Unicode: one letter may become two characters, and a capital sigma becomes the
final form of the small one at the end of a word.  The end of a word is a place
with a letter with case before it and none after it, where the characters of
`ignoredRanges` are passed over on either side.

Type tags are compared in lower case as well, but of the Latin letters only
(`lowerLatin`).
-/

namespace Scenery.Text

/-- Whether the next character that is not passed over is a letter with case. -/
def casedNext (s : List Char) : Bool := (s.dropWhile isIgnored).head?.any isCased

/-- The lower-case form of a character between two stretches of text, the one
before it given backwards. -/
def lowerAt (before : List Char) (c : Char) (after : List Char) : List Char :=
  if c = 'Σ' then [if casedNext before && !casedNext after then 'ς' else 'σ']
  else if c = 'İ' then ['i', '\u0307']
  else [lowerChar c]

/-- The lower-case forms of the characters of a text, after a stretch of text
given backwards. -/
def lowerAll (before : List Char) : List Char → List Char
  | [] => []
  | c :: after => lowerAt before c after ++ lowerAll (c :: before) after

/-- A text in lower case. -/
def lower (s : String) : String := String.ofList (lowerAll [] s.toList)

/-- A text with its Latin capitals in lower case. -/
def lowerLatin (s : String) : String := s.map Char.toLower

example : lower "ΟΔΟΣ Σ" = "οδος σ" := by decide +kernel

end Scenery.Text
