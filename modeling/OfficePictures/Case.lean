import OfficePictures.Disk
import OfficePictures.Extraction
import OfficePictures.Toolkit.BuiltIn

/-!
# Case — surroundings in memory

A case in memory answers the requests of extractions: it detects types, remembers what was
registered, keeps a disk, and notes every call of the registrar, of the case and of the job.  It can
be told to refuse some files and to answer no questions.
-/

namespace OfficePictures

/-- How types are detected. -/
inductive Detector
  /-- Every document has the same type. -/
  | constant (mime : String)
  /-- The first bytes of a document are looked at. -/
  | sniffing (limit : Nat)
  /-- No type is ever known. -/
  | failing
  deriving DecidableEq, Repr

/-- The number of bytes that are looked at if no other is given: 32 MiB. -/
def Detector.defaultLimit : Nat := 32 * 1024 * 1024

/-- What a case is told. -/
inductive CaseEvent
  | registered (descriptor : Descriptor)
  | rejected (fileName : String)
  | notified (documentId : Nat)
  | addedToJob (files : List DerivedFile)
  deriving DecidableEq, Repr

/-- A case in memory. -/
structure Case where
  detector : Detector
  disk : Disk
  /-- The documents of which files were registered. -/
  parents : List Nat
  /-- The file names that the registrar refuses. -/
  refused : List String
  /-- Whether the case answers no questions. -/
  isClosed : Bool
  /-- The number of the next file. -/
  nextId : Nat
  /-- What happened, the last event first. -/
  events : List CaseEvent
  deriving DecidableEq, Repr

namespace Case

/-- A case in which nothing happened yet; its files are numbered from 1000 on. -/
def start (detector : Detector) : Case :=
  ⟨detector, Disk.empty, [], [], false, 1000, []⟩

def note (current : Case) (event : CaseEvent) : Case :=
  { current with events := event :: current.events }

/-- The content of a document as a reader finds it; a directory opens like an empty file. -/
def contentOf? (current : Case) (document : Document) : Option Bytes :=
  match document.source with
  | .memory content => some content
  | .file path =>
      match current.disk.lookup? path with
      | none => none
      | some (_, .directory) => some []
      | some (_, .file content) => some content

def bytesOf? (current : Case) (document : Document) : Option Bytes :=
  match document.source with
  | .memory content => some content
  | .file path => current.disk.fileContent? path

def mimeType? (current : Case) (document : Document) : Option String :=
  match current.detector with
  | .constant mime => some mime
  | .sniffing limit =>
      (current.bytesOf? document).map fun bytes => Signature.mimeType (bytes.take limit)
  | .failing => none

/-- The file that a picture becomes, unless its name is refused. -/
def register (current : Case) (descriptor : Descriptor) : Option DerivedFile × Case :=
  if current.refused.contains descriptor.fileName then
    (none, current.note (.rejected descriptor.fileName))
  else
    (some ⟨current.nextId, descriptor.fileName, descriptor.casePath, descriptor.parentId⟩,
      { current with
        parents := descriptor.parentId :: current.parents
        nextId := current.nextId + 1
        events := .registered descriptor :: current.events })

def answer (current : Case) : (request : Request) → request.Answer × Case
  | .mimeType document => (current.mimeType? document, current)
  | .hasDerivedFiles document =>
      -- A closed case still takes in files; it only answers no questions.
      if current.isClosed then (.error ⟨"base de datos del caso cerrada"⟩, current)
      else (.ok (current.parents.contains document.id), current)
  | .pathExists path => (current.disk.pathExists path, current)
  | .content document => (current.contentOf? document, current)
  | .makeDirectory path =>
      let (done, disk) := current.disk.makeDirectory path
      (done, { current with disk })
  | .writeFile path content =>
      let (done, disk) := current.disk.writeFile path content
      (done, { current with disk })
  | .register descriptor => current.register descriptor
  | .notify document => ((), current.note (.notified document.id))
  | .addToJob files => ((), current.note (.addedToJob files))

def run {α : Type} (current : Case) (script : Script α) : α × Case :=
  script.run answer current

end Case
end OfficePictures
