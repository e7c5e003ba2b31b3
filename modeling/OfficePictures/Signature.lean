import OfficePictures.Compound.File
import OfficePictures.DocumentFormat
import OfficePictures.Toolkit

/-!
# Signature — the type of a content by its first bytes

Most types are known by fixed bytes at fixed places.  Two need more: a compound file is a document
if its root storage has the class of an application, and an archive is a document if the names of
its first entries say so.

The types are tried in the order of `contentType?`; the first that fits is the answer.  They are the
types of pictures and documents, and a few others; who needs more brings a toolkit that knows them.
-/

namespace OfficePictures
namespace Signature

/-- Whether `content` has the bytes `expected` at `position`. -/
def hasAt (content : Bytes) (position : Nat) (expected : Bytes) : Bool :=
  (content.drop position).take expected.length == expected

def ascii (text : String) : Bytes :=
  text.toList.map fun c => UInt8.ofNat c.toNat

/-- Whether `content` has at least `count` bytes. -/
def hasLength (content : Bytes) (count : Nat) : Bool :=
  (content.take count).length == count

/-- An upper-case ASCII letter as its lower case; all other bytes as they are. -/
def lowerByte (b : UInt8) : UInt8 :=
  if 0x41 ≤ b && b ≤ 0x5A then b + 32 else b

/-- Whether `content` begins with `expected`, in any letter case. -/
def beginsLike (content : Bytes) (expected : String) : Bool :=
  let bytes := ascii expected
  ((content.take bytes.length).map lowerByte) == bytes.map lowerByte

/-! ## Pictures -/

/-- Whether the content begins like a TIFF file of either byte order. -/
def isTiffLike (content : Bytes) : Bool :=
  hasAt content 0 [0x49, 0x49, 0x2A, 0x00] || hasAt content 0 [0x4D, 0x4D, 0x00, 0x2A]

/-- A TIFF file whose ninth and tenth byte are not those of a raw photograph. -/
def isTiff (content : Bytes) : Bool :=
  isTiffLike content && hasLength content 10 && content[8]? != some 0x43 && content[9]? != some 0x52

/-- A media file of boxes whose first box gives the brand of still pictures. -/
def isHeif (content : Bytes) : Bool :=
  hasLength content 16 && hasAt content 4 (ascii "ftyp") && hasAt content 8 (ascii "heic") &&
    hasLength content (Bytes.toNat (content.take 4).reverse)

/-! ## Documents -/

def formatOfClass? (classId : Bytes) : Option DocumentFormat :=
  let office (first : UInt8) (second : UInt8) : Bytes :=
    [first, second, 0x02, 0, 0, 0, 0, 0, 0xC0, 0, 0, 0, 0, 0, 0, 0x46]
  let slides : Bytes :=
    [0x10, 0x8D, 0x81, 0x64, 0x9B, 0x4F, 0xCF, 0x11, 0x86, 0xEA, 0, 0xAA, 0, 0xB9, 0x29, 0xE8]
  if classId = office 0x06 0x09 then some .doc
  else if classId = office 0x10 0x08 ∨ classId = office 0x20 0x08 then some .xls
  else if classId = slides then some .ppt
  else none

def compoundFormat? (content : Bytes) : Option DocumentFormat := do
  let file ← Compound.File.open? content
  let root ← file.directory[0]?
  formatOfClass? root.classId

/-- The bytes in front of each entry of an archive. -/
def entryMark : Bytes :=
  [0x50, 0x4B, 0x03, 0x04]

/-- Where the first entry mark begins in `content`. -/
def findEntryMark? (content : Bytes) : Option Nat :=
  match content with
  | [] => none
  | b :: rest =>
      if (b :: rest).take 4 = entryMark then some 0 else (findEntryMark? rest).map (· + 1)

/-- Where the name of the next entry begins: behind an entry mark that begins and ends within 6000
bytes from `start`. -/
def nextName? (content : Bytes) (start : Nat) : Option Nat := do
  let found ← findEntryMark? ((content.drop start).take 6000)
  return start + found + 30

/-- The document format that the name of an entry at `position` shows. -/
def formatOfName? (content : Bytes) (position : Nat) : Option DocumentFormat :=
  if hasAt content position (ascii "word/") then some .docx
  else if hasAt content position (ascii "ppt/") then some .pptx
  else if hasAt content position (ascii "xl/") then some .xlsx
  else none

/-- The document format of an archive.  The first name can show it; if the first entry is one that
every package has, the third entry has to belong to a document and the fourth decides. -/
def packageFormat? (content : Bytes) : Option DocumentFormat :=
  if hasAt content 0 entryMark then
    match formatOfName? content 30 with
    | some format => some format
    | none =>
        if hasAt content 30 (ascii "[Content_Types].xml") ||
            hasAt content 30 (ascii "_rels/.rels") || hasAt content 30 (ascii "docProps") then do
          -- The stored length stands at 18; a header and the longest of the names take 49 bytes.
          let second ← nextName? content ((← Bytes.natAt? content 18 4) + 49)
          let third ← nextName? content second
          let _ ← formatOfName? content third
          formatOfName? content (← nextName? content (third + 26))
        else
          none
  else
    none

def isArchive (content : Bytes) : Bool :=
  hasAt content 0 [0x50, 0x4B] && (content[2]?.any fun b => b = 3 || b = 5 || b = 7) &&
    content[3]?.any fun b => b = 4 || b = 6 || b = 8

/-! ## Text -/

/-- Whether a byte is white space in front of a tag. -/
def isTagBlank (b : UInt8) : Bool :=
  b = 0x09 || b = 0x0A || b = 0x0C || b = 0x0D || b = 0x20

def pageTags : List String :=
  ["<!doctype html", "<html", "<head", "<script", "<iframe", "<h1", "<div", "<font", "<table", "<a",
    "<style", "<title", "<b", "<body", "<br", "<p", "<!--"]

/-- A tag of a page after white space, followed by a space or the end of the tag. -/
def isPage (content : Bytes) : Bool :=
  let content := content.dropWhile isTagBlank
  pageTags.any fun tag =>
    beginsLike content tag && content[tag.length]?.any fun b => b = 0x20 || b = 0x3E

/-- An XML declaration after white space and a byte order mark. -/
def isXml (content : Bytes) : Bool :=
  let content := content.dropWhile isTagBlank
  let content := if hasAt content 0 [0xEF, 0xBB, 0xBF] then content.drop 3 else content
  beginsLike content "<?xml"

/-! ## All types -/

def extensionOf : DocumentFormat → String
  | .doc => "doc"
  | .docx => "docx"
  | .ppt => "ppt"
  | .pptx => "pptx"
  | .xls => "xls"
  | .xlsx => "xlsx"

def ofFormat (format : DocumentFormat) : ContentType :=
  ⟨extensionOf format, format.mimeType⟩

/-- The types known by a test on the content, in the order in which they are tried. -/
def pictureTypes : List ((Bytes → Bool) × ContentType) :=
  [ ((hasAt · 0 [0xFF, 0xD8, 0xFF]), ⟨"jpg", "image/jpeg"⟩),
    ((hasAt · 0 [0x89, 0x50, 0x4E, 0x47]), ⟨"png", "image/png"⟩),
    ((hasAt · 0 (ascii "GIF")), ⟨"gif", "image/gif"⟩),
    ((hasAt · 8 (ascii "WEBP")), ⟨"webp", "image/webp"⟩),
    ((fun content => isTiffLike content && hasAt content 8 [0x43, 0x52, 0x02]),
      ⟨"cr2", "image/x-canon-cr2"⟩),
    (isTiff, ⟨"tif", "image/tiff"⟩),
    ((hasAt · 0 (ascii "BM")), ⟨"bmp", "image/bmp"⟩),
    ((hasAt · 0 [0x49, 0x49, 0xBC]), ⟨"jxr", "image/vnd.ms-photo"⟩),
    ((hasAt · 0 (ascii "8BPS")), ⟨"psd", "image/vnd.adobe.photoshop"⟩),
    ((hasAt · 0 [0x00, 0x00, 0x01, 0x00]), ⟨"ico", "image/vnd.microsoft.icon"⟩),
    (isHeif, ⟨"heif", "image/heif"⟩),
    ((fun content => hasLength content 3 && hasAt content 0 [0xFF, 0x0A]),
      ⟨"jxl", "image/jxl"⟩) ]

/-- The types that are tried when the content is no picture and no document. -/
def otherTypes : List ((Bytes → Bool) × ContentType) :=
  [ (isArchive, ⟨"zip", "application/zip"⟩),
    ((hasAt · 0 [0x1F, 0x8B, 0x08]), ⟨"gz", "application/gzip"⟩),
    ((hasAt · 0 (ascii "%PDF")), ⟨"pdf", "application/pdf"⟩),
    ((hasAt · 0 [0x7B, 0x5C, 0x72, 0x74, 0x66]), ⟨"rtf", "application/rtf"⟩),
    ((hasAt · 0 Compound.signature), ⟨"msi", "application/x-ole-storage"⟩),
    (isPage, ⟨"html", "text/html"⟩),
    (isXml, ⟨"xml", "text/xml"⟩),
    ((fun content => hasLength content 3 && hasAt content 0 (ascii "#!")),
      ⟨"sh", "text/x-shellscript"⟩) ]

def documentFormat? (content : Bytes) : Option DocumentFormat :=
  match packageFormat? content with
  | some format => some format
  | none => if hasAt content 0 Compound.signature then compoundFormat? content else none

def firstOf (types : List ((Bytes → Bool) × ContentType)) (content : Bytes) : Option ContentType :=
  (types.find? fun entry => entry.1 content).map (·.2)

/-- The type of a content, if it is known. -/
def contentType? (content : Bytes) : Option ContentType :=
  match firstOf pictureTypes content with
  | some type => some type
  | none =>
      match documentFormat? content with
      | some format => some (ofFormat format)
      | none => firstOf otherTypes content

end Signature
end OfficePictures
