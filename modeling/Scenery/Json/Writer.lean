import Scenery.Json.Basic
import Scenery.Decimal.Shortest

/-!
# Writing JSON

`Json.compact` writes a value without blanks, the members of an object in their
order.  Messages about a document quote values this way.

* A real number is written with the fewest digits that read back, and always so
  that it is read as a real number again: a whole one keeps a zero after its
  point, and a very large or small one has an exponent (`Number.style`).
* In a string the quote, the backslash and the control characters are escaped.
  All other characters stand for themselves.
-/

namespace Scenery

/-- Real numbers are positional from `0.00001` to below `10 ^ 16`.  Beyond that
the exponent always has a sign. -/
def Number.style : Decimal.Style where
  lowest := -5
  highest := 15
  plus := true
  tie := .even

/-- The text of a number. -/
def Number.text : Number → String
  | .integer value => toString value
  | .real value => (Decimal.Reading.ofFloat value).text style

namespace Json

/-- A hexadecimal digit in lower case. -/
def hexDigit (n : Nat) : Char := Nat.digitChar n

/-- How a character stands in a string. -/
def escape (c : Char) : List Char :=
  if c = '"' then ['\\', '"']
  else if c = '\\' then ['\\', '\\']
  else if c = '\x08' then ['\\', 'b']
  else if c = '\x0c' then ['\\', 'f']
  else if c = '\n' then ['\\', 'n']
  else if c = '\r' then ['\\', 'r']
  else if c = '\t' then ['\\', 't']
  else if c < ' ' then ['\\', 'u', '0', '0', hexDigit (c.toNat / 16), hexDigit (c.toNat % 16)]
  else [c]

/-- A string with its quotes. -/
def quote (s : String) : String := "\"" ++ String.ofList (s.toList.flatMap escape) ++ "\""

mutual

/-- A value without blanks. -/
def compact : Json → String
  | .null => "null"
  | .bool value => if value then "true" else "false"
  | .number value => value.text
  | .string value => quote value
  | .array items => "[" ++ ",".intercalate (compactItems items) ++ "]"
  | .object members => "\x7b" ++ ",".intercalate (compactMembers members) ++ "\x7d"

/-- The texts of the items of an array. -/
def compactItems : List Json → List String
  | [] => []
  | x :: rest => compact x :: compactItems rest

/-- The texts of the members of an object. -/
def compactMembers : List (String × Json) → List String
  | [] => []
  | (key, x) :: rest => (quote key ++ ":" ++ compact x) :: compactMembers rest

end

end Json

end Scenery
