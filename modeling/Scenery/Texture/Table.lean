import Std.Data.HashMap
import Scenery.Journal
import Scenery.Json.Decode
import Scenery.Text.Lowercase
import Scenery.Text.Path
import Scenery.Texture.Basic

/-!
# The table of textures

Textures are kept under their ids in lower case.  An id that is declared again
takes the place of the one before, but only if its declaration converts.

Every insertion opens a new slot.  A handle that has lost its place in the table
keeps its slot, so what was bound to it earlier stays bound to it.

Reading files is not a matter of the table: `loadPending` takes the function
that reads.  An image that cannot be read leaves its slot as it is.
-/

namespace Scenery

/-- Textures by their ids, and the pixels that are there. -/
structure TextureTable where
  /-- The handle of each id. -/
  handles : Std.HashMap String TextureHandle
  /-- How many slots there are. -/
  slots : Nat
  /-- The pixels of each slot that has some. -/
  loaded : Std.HashMap Nat Texture

namespace TextureTable

/-- The table without textures. -/
def empty : TextureTable := ⟨∅, 0, ∅⟩

/-- Open a slot for a texture, under its id in lower case. -/
def insert (t : TextureTable) (id : String) (source : TextureSource) :
    TextureTable × TextureHandle :=
  let handle : TextureHandle := ⟨t.slots, Text.lower id, source⟩
  ({ t with handles := t.handles.insert handle.id handle, slots := t.slots + 1 }, handle)

/-- The handle of an id in lower case. -/
def lookup (t : TextureTable) (id : String) : Option TextureHandle := t.handles[id]?

/-- How many textures there are. -/
def size (t : TextureTable) : Nat := t.handles.size

/-- The handles in the order of their ids. -/
def toList (t : TextureTable) : List TextureHandle :=
  t.handles.values.mergeSort fun a b => !decide (b.id < a.id)

/-! ## Pixels -/

/-- The pixels of a handle, if they are there. -/
def data? (t : TextureTable) (handle : TextureHandle) : Option Texture := t.loaded[handle.slot]?

/-- Whether the pixels of a handle are there. -/
def isReady (t : TextureTable) (handle : TextureHandle) : Bool := (t.data? handle).isSome

/-- Put pixels in the slot of a handle, in the place of any that are there. -/
def populate (t : TextureTable) (handle : TextureHandle) (data : Texture) : TextureTable :=
  { t with loaded := t.loaded.insert handle.slot data }

/-- The images whose pixels are not there. -/
def pending (t : TextureTable) : List TextureHandle :=
  t.toList.filter fun handle => !handle.source.isVideo && !t.isReady handle

/-- Read the image of a handle. -/
def load (read : String → Option Texture) (t : TextureTable) (handle : TextureHandle) :
    TextureTable :=
  match handle.source with
  | .image path _ => ((read path).map (t.populate handle)).getD t
  | .video _ => t

/-- Read all images whose pixels are not there. -/
def loadPending (t : TextureTable) (read : String → Option Texture) : TextureTable :=
  t.pending.foldl (load read) t

/-! ## Declarations -/

/-- A texture as it is declared. -/
structure Declaration where
  /-- The file. -/
  filepath : String
  /-- Whether the file is a video. -/
  isVideo : Bool
  /-- Whether an image is also kept in smaller sizes. -/
  mipmaps : Bool

open Json.Decode in
/-- The declaration of a JSON value. -/
def Declaration.decode : Json.Decoder Declaration :=
  record .fewer "TextureDecl"
    (.mk <$> required "filepath" text <*> withDefault "isVideo" flag false <*>
      withDefault "mipmaps" flag true)

/-- The source of a declaration, whose file is below a base directory. -/
def Declaration.source (base : Option String) (d : Declaration) : TextureSource :=
  let path := Text.Path.resolve base d.filepath
  if d.isVideo then .video path else .image path d.mipmaps

/-- Go on with the next entry of the section. -/
def addEntry (base : Option String) (acc : TextureTable × Journal) (entry : String × Json) :
    TextureTable × Journal :=
  match Declaration.decode entry.2 with
  | .ok d => ((acc.1.insert entry.1 (d.source base)).1, acc.2)
  | .error e => (acc.1, acc.2.add (.malformed .textures entry.1 e.message))

/-- The table of a section whose files are below a base directory. -/
def ofSection (entries : Json.Members) (base : Option String) (journal : Journal) :
    TextureTable × Journal :=
  entries.foldl (addEntry base) (empty, journal)

end TextureTable

end Scenery
