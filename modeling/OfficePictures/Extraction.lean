import OfficePictures.Container
import OfficePictures.Sink

/-!
# Extraction — taking the pictures out of a document

`Extraction.extract` treats one document from beginning to end and always comes to an outcome.  A
document whose type is not supported, that was treated before, or that has no pictures leaves
nothing behind.  Otherwise every picture gets a name, is written, and is registered; a picture that
cannot be written or registered does not keep the others from it.  If any was registered, the case
is told and the job gets the registered files.
-/

namespace OfficePictures
namespace Extraction

variable [Toolkit]

/-- How the extraction from a document ended. -/
inductive Outcome
  /-- The document has derived files, and there is something at its output directory. -/
  | alreadyDone
  | unsupported
  | noPictures
  | unreadable (fault : Fault)
  /-- The case does not tell whether the document was treated before. -/
  | lookupFailed (fault : LookupFault)
  /-- The output directory cannot be made. -/
  | outputFailed
  | extracted (written registered : Nat)
  deriving DecidableEq, Repr

/-! ## Before the pictures -/

/-- The format of a document, as far as the detector knows it. -/
def format? (document : Document) : Script (Option DocumentFormat) := do
  let mime ← Script.request (.mimeType document)
  return mime.bind DocumentFormat.ofMimeType?

def outputDirectory (config : Config) (document : Document) : String :=
  String.ofList (Sink.joinPath config.directory.toList document.uniqueName.toList)

def isDone (config : Config) (document : Document) : Script (Except LookupFault Bool) := do
  match ← Script.request (.hasDerivedFiles document) with
  | .error fault => return .error fault
  | .ok false => return .ok false
  | .ok true =>
      let isThere ← Script.request (.pathExists (outputDirectory config document))
      return .ok isThere

def contentOf (config : Config) (document : Document) (format : DocumentFormat) :
    Script Container.Content := do
  match ← Script.request (.content document) with
  | none => return .unreadable .io
  | some bytes => return Container.content format bytes config.limits

/-! ## Pictures -/

/-- What has been done with the pictures so far. -/
structure Progress where
  sink : Sink
  names : UniqueNames
  /-- The files that were registered. -/
  files : List DerivedFile
  /-- The number of files that were written. -/
  written : Nat

def Progress.start (config : Config) (document : Document) : Progress :=
  ⟨Sink.ofDirectory (outputDirectory config document), UniqueNames.empty, [], 0⟩

/-- What is registered of a picture that was written. -/
def descriptorOf (config : Config) (document : Document) (picture : Picture)
    (fileName localPath : String) : Descriptor :=
  Descriptor.ofPicture document fileName
    (Descriptor.pathInCase config.relativeDirectory document.uniqueName fileName)
    localPath picture.data config.toolName picture.modified

/-- Names, writes and registers a picture; `none` if there is no directory to write to. -/
def storePicture (config : Config) (document : Document) (number : Nat) (picture : Picture)
    (progress : Progress) : Script (Option Progress) := do
  -- The name is taken even if the picture is not written: no name depends on a failure.
  let (fileName, names) :=
    progress.names.claim (FileName.sanitize (picture.proposedName number))
  let (result, sink) ← progress.sink.write fileName picture.data
  let progress := { progress with sink, names }
  match result with
  | .error .directoryNotMade => return none
  | .error .fileNotWritten => return some progress
  | .ok path =>
      let descriptor := descriptorOf config document picture fileName path
      let file ← Script.request (.register descriptor)
      return some
        { progress with
          files := progress.files ++ file.toList
          written := progress.written + 1 }

/-- Stores pictures in order, the first of which has the given number. -/
def storePictures (config : Config) (document : Document) (number : Nat) (progress : Progress) :
    List Picture → Script (Option Progress)
  | [] => return some progress
  | picture :: pictures => do
      match ← storePicture config document number picture progress with
      | none => return none
      | some progress => storePictures config document (number + 1) progress pictures

/-- Tells the case and the job of the registered files, if there are any. -/
def announce (document : Document) (files : List DerivedFile) : Script Unit := do
  if files ≠ [] then
    Script.request (.notify document)
    Script.request (.addToJob files)

/-- Stores all pictures of a document and announces them. -/
def storeAll (config : Config) (document : Document) (pictures : List Picture) :
    Script Outcome := do
  match ← storePictures config document 0 (Progress.start config document) pictures with
  | none => return .outputFailed
  | some progress =>
      announce document progress.files
      return .extracted progress.written progress.files.length

/-! ## Documents -/

def extract (config : Config) (document : Document) : Script Outcome := do
  match ← format? document with
  | none => return .unsupported
  | some format =>
      match ← isDone config document with
      | .error fault => return .lookupFailed fault
      | .ok true => return .alreadyDone
      | .ok false =>
          match ← contentOf config document format with
          | .empty => return .noPictures
          | .unreadable fault => return .unreadable fault
          | .pictures list => storeAll config document list

end Extraction
end OfficePictures
