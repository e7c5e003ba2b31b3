import OfficePictures.Script

/-!
# Sink — the directory that pictures are written to

The pictures of one document go to one directory, which is made when it is first needed and never
again after it was made.
-/

namespace OfficePictures

/-- The directory for the pictures of a document, and whether it was made. -/
structure Sink where
  directory : String
  isPrepared : Bool
  deriving DecidableEq, Repr

/-- Why a picture is not written. -/
inductive SinkFault
  | directoryNotMade
  | fileNotWritten
  deriving DecidableEq, Repr

namespace Sink

/-- The path of a file in a directory; a name that begins at the root is a path of its own. -/
def joinPath (directory name : List Char) : List Char :=
  if name.head? = some '/' || directory.isEmpty then name
  else if directory.getLast? = some '/' then directory ++ name
  else directory ++ '/' :: name

def ofDirectory (directory : String) : Sink :=
  ⟨directory, false⟩

def pathOf (sink : Sink) (name : String) : String :=
  String.ofList (joinPath sink.directory.toList name.toList)

/-- Makes the directory, unless it was made before. -/
def prepare (sink : Sink) : Script (Except SinkFault Unit × Sink) := do
  if sink.isPrepared then
    return (.ok (), sink)
  else if ← Script.request (.makeDirectory sink.directory) then
    return (.ok (), { sink with isPrepared := true })
  else
    return (.error .directoryNotMade, sink)

/-- Writes a picture as an encoded file and gives the path of the file. -/
def write (sink : Sink) (name : String) (content : Bytes) :
    Script (Except SinkFault String × Sink) := do
  match ← sink.prepare with
  | (.error fault, sink) => return (.error fault, sink)
  | (.ok (), sink) =>
      let path := sink.pathOf name
      if ← Script.request (.writeFile path (Encoded.encode content)) then
        return (.ok path, sink)
      else
        return (.error .fileNotWritten, sink)

end Sink
end OfficePictures
