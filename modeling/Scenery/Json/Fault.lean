/-!
# What is wrong with a text that is not JSON

A text that cannot be read has one fault, the first that reading from the left
meets, at one place.  A place is a line, counted from one, and a column, the
number of bytes of that line read so far.  A line feed that was just read
begins the next line at column zero.

`Place.after` finds the place from the number of bytes read.  The count may end
inside a character, since a fault is met byte by byte.
-/

namespace Scenery.Json

/-- What is wrong with a text that is not JSON. -/
inductive Fault where
  /-- The text ends where a value, or the rest of one, is due. -/
  | endOfValue
  /-- The text ends inside a string. -/
  | endOfString
  /-- The text ends inside an array. -/
  | endOfList
  /-- The text ends inside an object. -/
  | endOfObject
  /-- No value starts here. -/
  | expectedValue
  /-- A literal is misspelt. -/
  | expectedIdent
  /-- A numeral is malformed. -/
  | invalidNumber
  /-- A numeral is too large for a real number. -/
  | outOfRange
  /-- A backslash is followed by what no escape starts with. -/
  | invalidEscape
  /-- A surrogate has no partner. -/
  | loneSurrogate
  /-- A leading surrogate is not followed by an escape. -/
  | endOfHexEscape
  /-- A control character stands in a string as it is. -/
  | controlCharacter
  /-- A key is not a string. -/
  | keyNotString
  /-- A comma stands before a closing bracket. -/
  | trailingComma
  /-- A key has no colon. -/
  | expectedColon
  /-- An item is followed by neither a comma nor the end of the array. -/
  | expectedListEnd
  /-- A member is followed by neither a comma nor the end of the object. -/
  | expectedObjectEnd
  /-- More text follows the value. -/
  | trailingCharacters
  /-- Arrays and objects are nested too deeply. -/
  | tooDeep
deriving DecidableEq, Repr

/-- The words for a fault. -/
def Fault.message : Fault → String
  | .endOfValue => "EOF while parsing a value"
  | .endOfString => "EOF while parsing a string"
  | .endOfList => "EOF while parsing a list"
  | .endOfObject => "EOF while parsing an object"
  | .expectedValue => "expected value"
  | .expectedIdent => "expected ident"
  | .invalidNumber => "invalid number"
  | .outOfRange => "number out of range"
  | .invalidEscape => "invalid escape"
  | .loneSurrogate => "lone leading surrogate in hex escape"
  | .endOfHexEscape => "unexpected end of hex escape"
  | .controlCharacter => "control character (\\u0000-\\u001F) found while parsing a string"
  | .keyNotString => "key must be a string"
  | .trailingComma => "trailing comma"
  | .expectedColon => "expected `:`"
  | .expectedListEnd => "expected `,` or `]`"
  | .expectedObjectEnd => "expected `,` or `\x7d`"
  | .trailingCharacters => "trailing characters"
  | .tooDeep => "recursion limit exceeded"

/-- A place in a text. -/
structure Place where
  /-- The line, counted from one. -/
  line : Nat
  /-- The bytes of that line that were read. -/
  column : Nat
deriving DecidableEq, Repr

/-- The number of bytes of a text. -/
def byteCount (text : List Char) : Nat := text.foldl (fun n c => n + c.utf8Size) 0

/-- The place reached from `place` after so many bytes of the text. -/
def Place.advance (place : Place) (bytes : Nat) : List Char → Place
  | [] => place
  | c :: rest =>
      if bytes = 0 then place
      else if c = '\n' then advance ⟨place.line + 1, 0⟩ (bytes - 1) rest
      else advance { place with column := place.column + min bytes c.utf8Size }
        (bytes - c.utf8Size) rest

/-- The place after so many bytes of a text. -/
def Place.after (bytes : Nat) (text : List Char) : Place := advance ⟨1, 0⟩ bytes text

/-- A fault and its place. -/
structure ReadError where
  /-- What is wrong. -/
  fault : Fault
  /-- Where reading stopped. -/
  place : Place
deriving DecidableEq, Repr

/-- The words for a fault at a place. -/
def ReadError.message (e : ReadError) : String :=
  s!"{e.fault.message} at line {e.place.line} column {e.place.column}"

example : Place.after 3 "é\nx".toList = ⟨2, 0⟩ := by decide
example : Place.after 1 "é\nx".toList = ⟨1, 1⟩ := by decide

end Scenery.Json
