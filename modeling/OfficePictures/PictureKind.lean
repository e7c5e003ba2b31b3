import OfficePictures.Text.Lowercase

/-!
# PictureKind — what a container says about a picture

Binary documents give the kind by the type of a record, packages by the extension of a part.
-/

namespace OfficePictures

/-- The kind of a picture that its container declares. -/
inductive PictureKind
  | emf
  | wmf
  | pict
  | jpeg
  | png
  | dib
  | tiff
  | unknown
  deriving DecidableEq, Repr

namespace PictureKind

/-- The kind of the pictures in records of type `recType`. -/
def ofRecordType (recType : UInt16) : PictureKind :=
  if recType = 0xF01A then emf
  else if recType = 0xF01B then wmf
  else if recType = 0xF01C then pict
  else if recType = 0xF01D ∨ recType = 0xF02A then jpeg
  else if recType = 0xF01E then png
  else if recType = 0xF01F then dib
  else if recType = 0xF029 then tiff
  else unknown

/-- The kind of a part with the given extension, in any letter case. -/
def ofExtension (extension : String) : PictureKind :=
  match String.ofList (Text.asciiLower extension.toList) with
  | "emf" => emf
  | "wmf" => wmf
  | "pict" | "pct" => pict
  | "jpg" | "jpeg" | "jpe" => jpeg
  | "png" => png
  | "bmp" | "dib" => dib
  | "tif" | "tiff" => tiff
  | _ => unknown

/-- Whether the picture is a list of drawing commands and not of dots. -/
def isMetafile : PictureKind → Bool
  | emf | wmf | pict => true
  | jpeg | png | dib | tiff | unknown => false

def extension? : PictureKind → Option String
  | emf => some "emf"
  | wmf => some "wmf"
  | pict => some "pict"
  | jpeg => some "jpg"
  | png => some "png"
  | dib => some "dib"
  | tiff => some "tiff"
  | unknown => none

end PictureKind
end OfficePictures
