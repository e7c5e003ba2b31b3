import OfficePictures.Archive.Directory
import OfficePictures.Package.ContentTypes
import OfficePictures.Package.Relationship

/-!
# Contents — a package as a whole

A package is an archive whose entries, directories apart, are its parts.  Of several parts whose
names compare equal the first is meant.  A package has to declare the types of its parts, and the
part that is its main document is the target of one of its own relationships.
-/

namespace OfficePictures

/-- A package. -/
structure Package where
  parts : List Archive.Entry
  contentTypes : Package.ContentTypes

namespace Package

variable [Toolkit]

/-! ## Parts -/

def contentTypesPart : PartName := "[Content_Types].xml".toList

/-- The part that holds the relationships of the package itself. -/
def relationshipsPart : PartName := "_rels/.rels".toList

/-- The greatest length of a part that holds markup: 64 MiB. -/
def markupLimit : Nat := 64 * 1024 * 1024

/-- The part that a name means among the given ones. -/
def findIn? (parts : List Archive.Entry) (name : PartName) : Option Archive.Entry :=
  parts.find? fun part => PartName.key part.name = PartName.key name

/-- The bytes of a part that holds markup, if there is such a part. -/
def markupIn (parts : List Archive.Entry) (name : PartName) : Except Fault (Option Bytes) :=
  match findIn? parts name with
  | none => .ok none
  | some part =>
      match part.read markupLimit with
      | .ok bytes => .ok (some bytes)
      | .error cause => .error (.notOpened (.partUnreadable (String.ofList name) cause))

/-! ## Opening -/

def ofParts (parts : List Archive.Entry) : Except Fault Package :=
  match markupIn parts contentTypesPart with
  | .error fault => .error fault
  | .ok none => .error (.notOpened (.partMissing (String.ofList contentTypesPart)))
  | .ok (some bytes) => (ContentTypes.ofBytes bytes).map (⟨parts, ·⟩)

/-- The package whose archive has the given entries. -/
def ofEntries (entries : List Archive.Entry) : Except Fault Package :=
  ofParts (entries.filter fun entry => !entry.isDirectory)

def ofBytes (bytes : Bytes) : Except Fault Package :=
  match Archive.entries? bytes with
  | none => .error (.notOpened .notArchive)
  | some entries => ofEntries entries

/-! ## Looking up -/

/-- The names of the parts, in the order of the archive. -/
def partNames (package : Package) : List PartName :=
  package.parts.map (·.name)

def find? (package : Package) (name : PartName) : Option Archive.Entry :=
  findIn? package.parts name

def contains (package : Package) (name : PartName) : Bool :=
  (package.find? name).isSome

def typeOf? (package : Package) (name : PartName) : Option String :=
  package.contentTypes.typeOf? name

/-- The part that a name means with its content of at most `limit` bytes. -/
def read (package : Package) (name : PartName) (limit : Nat) :
    Except Fault (Option (Archive.Entry × Bytes)) :=
  match package.find? name with
  | none => .ok none
  | some part =>
      match part.read limit with
      | .ok bytes => .ok (some (part, bytes))
      | .error cause => .error cause.toFault

/-- The relationships that a part holds, if there is such a part. -/
def relationships (package : Package) (name : PartName) :
    Except Fault (Option (List Relationship)) :=
  match markupIn package.parts name with
  | .error fault => .error fault
  | .ok none => .ok none
  | .ok (some bytes) => (Relationship.listOfBytes bytes).map some

def mainPart (package : Package) : Except Fault PartName :=
  match package.relationships relationshipsPart with
  | .error fault => .error fault
  | .ok none => .error (.notOpened (.partMissing (String.ofList relationshipsPart)))
  | .ok (some relationships) =>
      let found := do
        let relationship ← relationships.find? (·.isInternal "/officeDocument")
        let name ← resolveTarget? [] relationship.target
        if package.contains name then some name else none
      match found with
      | some name => .ok name
      | none => .error (.notOpened .noMainPart)

end Package
end OfficePictures
