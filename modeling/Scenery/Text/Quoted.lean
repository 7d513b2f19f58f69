import Scenery.Text.Hidden

/-!
# Quoted text in messages

A message that complains about a string shows it in quotes.  The quote, the
backslash and four control characters are escaped by a letter.  Characters
without a picture of their own (`isHidden`) are shown by their number.
-/

namespace Scenery.Text

/-- A code point in braces, as an escape. -/
def numbered (c : Char) : String :=
  "\\u\x7b" ++ String.ofList (Nat.toDigits 16 c.toNat) ++ "\x7d"

/-- How a character stands in a quoted text. -/
def shown (c : Char) : String :=
  if c = '"' then "\\\""
  else if c = '\\' then "\\\\"
  else if c = '\n' then "\\n"
  else if c = '\r' then "\\r"
  else if c = '\t' then "\\t"
  else if c = '\x00' then "\\0"
  else if isHidden c then numbered c
  else c.toString

/-- A text in quotes. -/
def quoted (s : String) : String := "\"" ++ String.join (s.toList.map shown) ++ "\""

end Scenery.Text
