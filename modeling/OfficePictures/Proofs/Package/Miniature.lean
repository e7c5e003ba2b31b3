import OfficePictures.Package.Document
import OfficePictures.Proofs.Archive.Miniature
import OfficePictures.Toolkit.BuiltIn

/-!
# Miniature — small documents in packages

A package with a main part and the relationships of that part.  What has to be checked of its files
is a part of the miniature.

* `Miniature.ofBytes_bytes` — its archive opens as a package;
* `Miniature.mainPartOf_package`, `Miniature.relationships_package` — its main part, and what it
  refers to;
* `leaflet` — a document that refers twice to its picture.
-/

namespace OfficePictures
namespace Package

open Archive

section Miniatures

variable [Toolkit]

/-! ## Parts that are stored files -/

theorem exists_findIn?_entriesOf {files : List StoredFile} {file : StoredFile} {name : PartName}
    (h : files.find? (fun other => PartName.key other.name.toList = PartName.key name) = some file)
    (start : Nat) : ∃ offset, findIn? (entriesOf start files) name = some (file.entry offset) := by
  induction files generalizing start with
  | nil => cases h
  | cons first files ih =>
      by_cases hkey : PartName.key first.name.toList = PartName.key name
      · have hfile : first = file := by simpa [hkey] using h
        subst hfile
        exact ⟨start, by simp [findIn?, entriesOf, hkey]⟩
      · have hrest : files.find?
            (fun other => PartName.key other.name.toList = PartName.key name) = some file := by
          simpa [hkey] using h
        rcases ih hrest (start + first.localBytes.length) with ⟨offset, hoffset⟩
        exact ⟨offset, by simpa [findIn?, entriesOf, hkey] using hoffset⟩

theorem markupIn_entriesOf {files : List StoredFile} {file : StoredFile} {name : PartName}
    (h : files.find? (fun other => PartName.key other.name.toList = PartName.key name) = some file)
    (start : Nat) : markupIn (entriesOf start files) name = .ok (some file.content) := by
  have hlength : file.content.length ≤ markupLimit :=
    Nat.le_of_lt (Nat.lt_trans file.length_lt (by decide))
  rcases exists_findIn?_entriesOf h start with ⟨offset, hoffset⟩
  rw [markupIn, hoffset]
  dsimp only
  rw [StoredFile.read_entry hlength]

/-- The picture parts if a single part holds relationships. -/
theorem pictureParts_of_single {package : Package} {root folder : List Char} {name : PartName}
    {relationships : List Relationship}
    (hfiles : relationshipPartsUnder package.partNames root = [(name, folder)])
    (hread : package.relationships name = .ok (some relationships)) :
    package.pictureParts root = .ok (distinct (package.pictureTargets folder relationships)) := by
  rw [pictureParts, hfiles]
  simp only [Walk.gatherItems, hread, Except.map, Option.getD_some, List.append_nil]

/-! ## Miniatures -/

/-- A file that lists the types of parts. -/
structure StoredTypes extends StoredFile where
  types : ContentTypes
  ofBytes_eq : ContentTypes.ofBytes content = .ok types

/-- A file that holds relationships. -/
structure StoredLinks extends StoredFile where
  relationships : List Relationship
  listOfBytes_eq : Relationship.listOfBytes content = .ok relationships

/-- The files of a small document. -/
structure MiniatureFiles where
  types : StoredTypes
  /-- The relationships of the package. -/
  links : StoredLinks
  /-- The main part. -/
  text : StoredFile
  /-- The relationships of the main part. -/
  textLinks : StoredLinks
  others : List StoredFile

namespace MiniatureFiles

def all (files : MiniatureFiles) : List StoredFile :=
  files.types.toStoredFile :: files.links.toStoredFile :: files.text ::
    files.textLinks.toStoredFile :: files.others

/-- The file that a name means. -/
def find? (files : MiniatureFiles) (name : PartName) : Option StoredFile :=
  files.all.find? fun file => PartName.key file.name.toList = PartName.key name

end MiniatureFiles

/-- A small document of an application, in an archive that can be read. -/
structure Miniature (application : Application) extends MiniatureFiles where
  entries_eq : entries? (archiveBytes toMiniatureFiles.all) =
    some (entriesOf 0 toMiniatureFiles.all)
  isDirectory_eq : ∀ entry ∈ entriesOf 0 toMiniatureFiles.all, entry.isDirectory = false
  find?_types : toMiniatureFiles.find? contentTypesPart = some types.toStoredFile
  find?_links : toMiniatureFiles.find? relationshipsPart = some links.toStoredFile
  find?_text : toMiniatureFiles.find? text.name.toList = some text
  find?_textLinks : toMiniatureFiles.find? textLinks.name.toList = some textLinks.toStoredFile
  target_eq : (do
    let relationship ← links.relationships.find? (·.isInternal "/officeDocument")
    resolveTarget? [] relationship.target) = some text.name.toList
  type_mem : application.mainTypes.contains ((types.types.typeOf? text.name.toList).getD "") = true

namespace Miniature

variable {application : Application} (miniature : Miniature application)

def bytes : Bytes :=
  archiveBytes miniature.all

def package : Package where
  parts := entriesOf 0 miniature.all
  contentTypes := miniature.types.types

theorem entries?_bytes : entries? miniature.bytes = some miniature.package.parts :=
  miniature.entries_eq

theorem ofBytes_bytes : ofBytes miniature.bytes = .ok miniature.package := by
  have hparts : miniature.package.parts.filter (fun entry => !entry.isDirectory) =
      miniature.package.parts := by
    refine List.filter_eq_self.2 ?_
    intro entry hentry
    rw [miniature.isDirectory_eq entry hentry]
    rfl
  rw [ofBytes, entries?_bytes]
  dsimp only
  rw [ofEntries, hparts, ofParts, package, markupIn_entriesOf miniature.find?_types]
  dsimp only
  rw [miniature.types.ofBytes_eq]
  rfl

theorem relationships_package {links : StoredLinks} {name : PartName}
    (h : miniature.find? name = some links.toStoredFile) :
    miniature.package.relationships name = .ok (some links.relationships) := by
  rw [relationships, package, markupIn_entriesOf h]
  dsimp only
  rw [links.listOfBytes_eq]
  rfl

theorem mainPartOf_package :
    miniature.package.mainPartOf application = .ok miniature.text.name.toList := by
  have hcontains : miniature.package.contains miniature.text.name.toList = true := by
    rcases exists_findIn?_entriesOf miniature.find?_text 0 with ⟨offset, hoffset⟩
    rw [contains, Package.find?, package, hoffset]
    rfl
  have hmain : miniature.package.mainPart = .ok miniature.text.name.toList := by
    rcases Option.bind_eq_some_iff.1 miniature.target_eq with ⟨relationship, hfound, htarget⟩
    rw [mainPart, miniature.relationships_package miniature.find?_links]
    simp [hfound, htarget, hcontains]
  rw [mainPartOf, hmain]
  exact if_pos miniature.type_mem

theorem pictures_bytes (limits : Limits) :
    pictures application miniature.bytes limits =
      miniature.package.picturesOf application limits := by
  simp only [pictures, ofBytes_bytes, bind, Except.bind]

end Miniature

end Miniatures

/-! ## A document with one picture -/

/-- How the part with the relationships of the document is spelled. -/
inductive Spelling
  | usual
  /-- With capitals in the name of the document and of its folder. -/
  | capitalDocument
  /-- With capitals in the name of the folder for relationships. -/
  | capitalLinks
  deriving DecidableEq, Repr

def Spelling.name : Spelling → String
  | usual => "word/_rels/document.xml.rels"
  | capitalDocument => "WORD/_rels/Document.XML.rels"
  | capitalLinks => "word/_RELS/document.xml.rels"

def leafletTypes : StoredTypes where
  name := "[Content_Types].xml"
  content :=
    asciiBytes
      ("<Types xmlns=\"http://schemas.openxmlformats.org/package/2006/content-types\">" ++
        "<Default Extension=\"xml\" ContentType=\"application/vnd.openxmlformats-officedocument." ++
        "wordprocessingml.document.main+xml\"/></Types>")
  checksum := 0x24B1EDC3
  length_lt := by decide +kernel
  checksum_eq := by
    rw [Checksum.crc32_eq_crcFrom]
    decide +kernel
  types :=
    { defaults :=
        [("xml".toList, "application/vnd.openxmlformats-officedocument." ++
          "wordprocessingml.document.main+xml")]
      overrides := [] }
  ofBytes_eq := Result.ok_of_toOption (by decide +kernel)

def leafletLinks : StoredLinks where
  name := "_rels/.rels"
  content :=
    asciiBytes
      ("<Relationships xmlns=\"http://schemas.openxmlformats.org/package/2006/relationships\">" ++
        "<Relationship Type=\"/officeDocument\" Target=\"word/document.xml\"/></Relationships>")
  checksum := 0x385FF412
  length_lt := by decide +kernel
  checksum_eq := by
    rw [Checksum.crc32_eq_crcFrom]
    decide +kernel
  relationships := [⟨"/officeDocument", "word/document.xml".toList, false⟩]
  listOfBytes_eq := Result.ok_of_toOption (by decide +kernel)

def leafletText : StoredFile where
  name := "word/document.xml"
  content := []
  checksum := 0
  length_lt := by decide
  checksum_eq := by decide +kernel

/-- The document refers to a picture outside, to one that is not there, and twice to its own. -/
def leafletTextLinks (spelling : Spelling) : StoredLinks where
  name := spelling.name
  content :=
    asciiBytes
      ("<Relationships xmlns=\"http://schemas.openxmlformats.org/package/2006/relationships\">" ++
        "<Relationship Type=\"/image\" Target=\"x.png\" TargetMode=\"External\"/>" ++
        "<Relationship Type=\"/image\" Target=\"media/B.png\"/>" ++
        "<Relationship Type=\"/image\" Target=\"media/A.png\"/>" ++
        "<Relationship Type=\"/image\" Target=\"/word/media/%61.PNG\"/></Relationships>")
  checksum := 0x68CB0484
  length_lt := by decide +kernel
  checksum_eq := by
    rw [Checksum.crc32_eq_crcFrom]
    decide +kernel
  relationships :=
    [⟨"/image", "x.png".toList, true⟩, ⟨"/image", "media/B.png".toList, false⟩,
      ⟨"/image", "media/A.png".toList, false⟩, ⟨"/image", "/word/media/%61.PNG".toList, false⟩]
  listOfBytes_eq := Result.ok_of_toOption (by decide +kernel)

def leafletImage : StoredFile where
  name := "word/media/a.png"
  content := [0x50, 0x4E, 0x47]
  checksum := 0x15BF411A
  length_lt := by decide
  checksum_eq := by decide +kernel

def leafletFiles (spelling : Spelling) : MiniatureFiles where
  types := leafletTypes
  links := leafletLinks
  text := leafletText
  textLinks := leafletTextLinks spelling
  others := [leafletImage]

def leaflet (spelling : Spelling) : Miniature .word where
  toMiniatureFiles := leafletFiles spelling
  entries_eq := by cases spelling <;> decide +kernel
  isDirectory_eq := by cases spelling <;> decide +kernel
  find?_types := by cases spelling <;> decide +kernel
  find?_links := by cases spelling <;> decide +kernel
  find?_text := by cases spelling <;> decide +kernel
  find?_textLinks := by cases spelling <;> decide +kernel
  target_eq := by cases spelling <;> decide +kernel
  type_mem := by cases spelling <;> decide +kernel

theorem relationshipPartsUnder_leaflet :
    relationshipPartsUnder (leaflet .usual).package.partNames
        (PartName.folder leafletText.name.toList) =
      [(Spelling.usual.name.toList, "word/".toList)] := by
  decide +kernel

theorem find?_leaflet : (leaflet .usual).find? "word/media/A.png".toList = some leafletImage := by
  decide +kernel

/-- The picture, by the name that the first reference to it gives. -/
theorem pictureParts_leaflet :
    (leaflet .usual).package.pictureParts (PartName.folder leafletText.name.toList) =
      .ok ["word/media/A.png".toList] := by
  have hlinks := (leaflet .usual).relationships_package (leaflet .usual).find?_textLinks
  rw [pictureParts_of_single relationshipPartsUnder_leaflet hlinks]
  refine congrArg Except.ok ?_
  decide +kernel

end Package
end OfficePictures
