import OfficePictures.Compound.File
import OfficePictures.Picture
import OfficePictures.Word.Fib
import OfficePictures.Word.FormattedPage
import OfficePictures.Word.InlinePicture

/-!
# Document — the pictures of a Word document

A Word document keeps pictures in two places: the blip store of its drawing group, which lies in the
table stream and delays pictures to the document stream, and the blocks of the data stream that runs
of text point to.  Each picture is named for the place where its stored bytes begin.
-/

namespace OfficePictures
namespace Word

/-- The part of the table stream that a range tells; a range that leaves the stream is a fault. -/
def tablePart (part : TablePart) (stream : TableStream) (table : Bytes) (range : TableRange) :
    Except Fault Bytes :=
  match range.slice? table with
  | some bytes => .ok bytes
  | none => .error (.notOpened (.outsideTable part stream.name))

def drawingGroupPictures (limits : Limits) (fib : Fib) (stream table : Bytes) :
    Except Fault (List Art.Blip) :=
  match fib.drawingGroup with
  | none => .ok []
  | some range => do
      let group ← tablePart .drawingGroup fib.tableStream table range
      Art.blipStorePictures group range.offset (some ⟨stream, 0⟩) limits

/-- Where the inline pictures lie in the data stream. -/
def inlineLocations (fib : Fib) (stream table : Bytes) : Except Fault (List UInt32) :=
  match fib.formattedPages with
  | none => .ok []
  | some range => do
      let pages ← tablePart .formattedPages fib.tableStream table range
      return pictureLocations stream pages

/-- A picture of the document, named for its place. -/
def toPicture [Toolkit] (blip : Art.Blip) : Picture :=
  let extension := blip.kind.suggestExtension blip.data
  { data := blip.data
    kind := blip.kind
    name := some (Text.hex blip.offset ++ "." ++ extension)
    extension := some extension
    modified := none }

/-- The pictures of a document: those of the drawing group, then the inline ones. -/
def pictures [Toolkit] (content : Bytes) (limits : Limits) : Except Fault (List Picture) := do
  let file ← Compound.File.ofBytes content
  let stream ← file.readStream limits "WordDocument"
  let fib ← Fib.read stream
  let table ← file.readStream limits fib.tableStream.name
  let stored ← drawingGroupPictures limits fib stream table
  let locations ← inlineLocations fib stream table
  let inlined ←
    if locations = [] then
      pure []
    else
      match ← file.readStreamIfPresent limits "Data" with
      | none => pure []
      | some data => inlinePictures data locations limits
  return (stored ++ inlined).map toPicture

end Word
end OfficePictures
