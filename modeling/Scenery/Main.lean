import Scenery.Listing

/-!
# The program

`main` reads the file that is named and writes its listing.
-/

namespace Scenery

/-- The bytes of a file. -/
def readBytes (path : String) : IO (Except FileError ByteArray) := do
  try
    let bytes ← IO.FS.readBinFile path
    return .ok bytes
  catch
    | .noFileOrDirectory .. => return .error .notFound
    | e => return .error (.other (toString e))

/-- Write what a run writes. -/
def Listing.Output.write (output : Listing.Output) : IO UInt32 := do
  IO.print (Listing.text output.out)
  IO.eprint (Listing.text output.err)
  return output.code

end Scenery

open Scenery in
/-- List the scene of the file that is named first. -/
def main (args : List String) : IO UInt32 := do
  match args with
  | [] => Listing.Output.write ⟨Listing.usage, []⟩
  | path :: _ =>
      let content ← readBytes path
      match Listing.onFile? path content with
      | some output => output.write
      | none =>
          IO.print (Listing.text [Listing.opening path])
          return Listing.stopCode
