import Scenery.Vector

/-!
# Colors

A color is four numbers for red, green, blue and opacity, usually between zero
and one.  Colors are linear: halfway between two colors is the mean of their
numbers.
-/

namespace Scenery

/-- A linear color. -/
@[ext] structure Color (α : Type) where
  /-- Red. -/
  r : α
  /-- Green. -/
  g : α
  /-- Blue. -/
  b : α
  /-- Opacity. -/
  a : α
deriving DecidableEq, Repr

namespace Color

variable {α : Type} [Scalar α]

/-- The opaque color of three numbers. -/
def opaqueOf (r g b : α) : Color α := ⟨r, g, b, 1⟩

/-- Opaque black. -/
def black : Color α := opaqueOf 0 0 0

/-- Opaque white. -/
def white : Color α := opaqueOf 1 1 1

/-- The opaque grey of one number. -/
def grey (level : α) : Color α := opaqueOf level level level

/-- The same color with another opacity. -/
def withOpacity (c : Color α) (a : α) : Color α := { c with a := a }

/-- A color as four numbers. -/
def toVec4 (c : Color α) : Vec4 α := ⟨c.r, c.g, c.b, c.a⟩

/-- Four numbers as a color. -/
def ofVec4 (v : Vec4 α) : Color α := ⟨v.x, v.y, v.z, v.w⟩

/-- The color that is `t` of the way from `c` to `d`. -/
def lerp (c d : Color α) (t : α) : Color α := ofVec4 (c.toVec4.lerp d.toVec4 t)

end Color

end Scenery
