import Scenery.Color

/-!
# Textures

A texture is declared with a file long before its pixels are there, and perhaps
they never are.  So what a material holds is a `TextureHandle`: the id, the
source, and the number of the slot that the pixels are put in later.  Handles of
one slot see the same pixels.

Pixels are kept as linear colors.  In a file the three colors of a pixel are
bytes on a curve that spends more of its values on the dark ones, and
`linearOfByte` undoes the curve.  Opacity is linear in a file too.
-/

namespace Scenery

/-- Where the pixels of a texture come from. -/
inductive TextureSource where
  /-- A still image. -/
  | image (path : String) (mipmaps : Bool)
  /-- A video, which whoever shows the scene plays. -/
  | video (path : String)
deriving DecidableEq, Repr

/-- Whether a source is a video. -/
def TextureSource.isVideo : TextureSource → Bool
  | .image .. => false
  | .video _ => true

/-- A texture whose pixels may not be there yet. -/
structure TextureHandle where
  /-- The slot of its pixels. -/
  slot : Nat
  /-- The id in lower case. -/
  id : String
  /-- Where its pixels come from. -/
  source : TextureSource
deriving DecidableEq, Repr

/-- Whether two handles see the same pixels. -/
def TextureHandle.sameAs (a b : TextureHandle) : Bool := a.slot == b.slot

/-- The pixels of a texture. -/
structure Texture where
  /-- The number of pixels in a row. -/
  width : UInt32
  /-- The number of rows. -/
  height : UInt32
  /-- The pixels, row by row. -/
  pixels : List (Color Float32)

namespace Texture

/-- The size of the pixels in bytes, sixteen for each. -/
def sizeInBytes (t : Texture) : Nat := t.pixels.length * 16

/-- The part of a whole that a byte stands for. -/
def partOfByte (byte : UInt8) : Float32 := byte.toFloat32 / 255

/-- The linear value of a color in a file. -/
def linearOfByte (byte : UInt8) : Float32 :=
  let v := partOfByte byte
  if v ≤ 0.04045 then v / 12.92 else ((v + 0.055) / 1.055).pow 2.4

/-- A pixel in a file. -/
structure Pixel where
  /-- Red. -/
  r : UInt8
  /-- Green. -/
  g : UInt8
  /-- Blue. -/
  b : UInt8
  /-- Opacity. -/
  a : UInt8
deriving DecidableEq, Repr

/-- The linear color of a pixel. -/
def Pixel.color (p : Pixel) : Color Float32 :=
  ⟨linearOfByte p.r, linearOfByte p.g, linearOfByte p.b, partOfByte p.a⟩

/-- The texture of an image. -/
def ofPixels (width height : UInt32) (pixels : List Pixel) : Texture :=
  ⟨width, height, pixels.map Pixel.color⟩

end Texture

end Scenery
