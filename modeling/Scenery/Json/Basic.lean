/-!
# JSON values

A scene is written as JSON.  This module holds the value type and the few
operations the rest of the library needs of it.

* A number keeps the way it was written: `Number.integer` for a numeral without
  fraction and exponent that fits 64 bits, `Number.real` for any other.  The
  two are read differently: a count is never a `real`, even a whole one.
* An object is the list of its members in the order of their first writing.
  The reader never makes two members of one key, so `Json.get?` may take the
  first it finds.  Order is kept because the children of a node, and the
  entries of a table, are worked through in the order they are written.

`Json.put` is how the reader adds a member: a repeated key changes the value in
its first place.
-/

namespace Scenery

/-- A JSON number, kept apart by how it is written. -/
inductive Number where
  /-- A numeral without fraction and exponent, within 64 bits. -/
  | integer (value : Int)
  /-- Any other numeral. -/
  | real (value : Float)
deriving Inhabited

/-- A JSON value. -/
inductive Json where
  /-- The literal for an absent value. -/
  | null
  /-- One of the two truth values. -/
  | bool (value : Bool)
  /-- A number. -/
  | number (value : Number)
  /-- A text. -/
  | string (value : String)
  /-- The items of an array, in order. -/
  | array (items : List Json)
  /-- The members of an object, in the order of their first writing. -/
  | object (members : List (String × Json))
deriving Inhabited

namespace Json

/-- The members of an object. -/
abbrev Members := List (String × Json)

/-- Add a member.  A key that is there already keeps its place and takes the
new value. -/
def put (key : String) (value : Json) : Members → Members
  | [] => [(key, value)]
  | (k, v) :: rest => if k = key then (k, value) :: rest else (k, v) :: put key value rest

/-- Leave out the members of one key. -/
def drop (key : String) (members : Members) : Members :=
  members.filter fun member => member.1 != key

/-- The value a key has in an object.  No other value has members. -/
def get? (key : String) : Json → Option Json
  | .object members => members.lookup key
  | _ => none

/-- The text of a string value. -/
def text? : Json → Option String
  | .string value => some value
  | _ => none

/-- The items of an array value. -/
def items? : Json → Option (List Json)
  | .array items => some items
  | _ => none

/-- A value just put is found. -/
theorem lookup_put_self (key : String) (value : Json) (members : Members) :
    (put key value members).lookup key = some value := by
  induction members with
  | nil => simp [put]
  | cons member rest ih =>
      obtain ⟨k, v⟩ := member
      by_cases h : k = key
      · simp [put, h]
      · have hne : (key == k) = false := beq_false_of_ne (Ne.symm h)
        simp [put, h, List.lookup_cons, hne, ih]

/-- Putting one key leaves the others as they were. -/
theorem lookup_put_of_ne {key other : String} (h : other ≠ key) (value : Json)
    (members : Members) : (put key value members).lookup other = members.lookup other := by
  have hne : (other == key) = false := beq_false_of_ne h
  induction members with
  | nil => simp [put, List.lookup_cons, hne]
  | cons member rest ih =>
      obtain ⟨k, v⟩ := member
      by_cases hk : k = key
      · simp [put, hk, List.lookup_cons, hne]
      · simp [put, hk, List.lookup_cons, ih]

end Json

end Scenery
