import OfficePictures.Bytes
import OfficePictures.FileName

/-!
# Document — what pictures are taken from

A document has a number within its case and a name; its content is at hand or in a file.  Its unique
name joins number and name and is a safe file name.
-/

namespace OfficePictures

/-- Where the content of a document is. -/
inductive Source
  | memory (content : Bytes)
  | file (path : String)
  deriving DecidableEq, Repr

/-- A document of a case. -/
structure Document where
  id : Nat
  name : String
  source : Source
  deriving DecidableEq, Repr

namespace Document

/-- The name of the file at the end of a path; nothing if the path ends by going back. -/
def fileNameOf (path : String) : String :=
  let named := (Text.split '/' path.toList).filter fun segment => segment ≠ [] ∧ segment ≠ ['.']
  match named.getLast? with
  | none => ""
  | some segment => if segment = ['.', '.'] then "" else String.ofList segment

def ofBytes (id : Nat) (name : String) (content : Bytes) : Document :=
  ⟨id, name, .memory content⟩

/-- A document in a file, named like the file. -/
def ofPath (id : Nat) (path : String) : Document :=
  ⟨id, fileNameOf path, .file path⟩

/-- The name that tells a document from all others of its case. -/
def uniqueName (document : Document) : String :=
  FileName.sanitize (Text.decimal document.id ++ "_" ++ document.name)

end Document
end OfficePictures
