import OfficePictures.Proofs.Container
import OfficePictures.Proofs.Package.Document
import OfficePictures.Proofs.Package.PictureParts
import OfficePictures.Proofs.Slideshow
import OfficePictures.Proofs.Word.Document
import OfficePictures.Proofs.Workbook.Document

/-!
# Limits — what limits do to the pictures of a document

* `tightened_pictures` — for each format, tighter limits give the same pictures or refuse them;
* `pictures_of_le` — the same in terms of the listed pictures.
-/

namespace OfficePictures
namespace Container

variable {tight wide : Limits}

theorem tightened_pictures [Toolkit] (hsteady : Toolkit.IsSteady) (hle : tight ≤ wide)
    (format : DocumentFormat) (bytes : Bytes) :
    Result.Tightened tight.Refuses (pictures format bytes tight) (pictures format bytes wide) := by
  have hpackage := fun application =>
    (Package.tightened_pictures hsteady (Limits.le_pictureBytes hle) application bytes).mono
      tight.refuses_picture
  cases format with
  | doc => exact Word.tightened_pictures hle bytes
  | ppt => exact Slideshow.tightened_pictures hle bytes
  | xls => exact Workbook.tightened_pictures hle bytes
  | docx => exact hpackage .word
  | pptx => exact hpackage .presentation
  | xlsx => exact hpackage .workbook

/-- Limits only refuse: whatever is listed under tighter limits is listed just so under wider ones,
and whatever is listed under wider limits is listed just so under tighter ones, or the document is
refused because something is over a limit. -/
theorem pictures_of_le [Toolkit] (hsteady : Toolkit.IsSteady) (hle : tight ≤ wide)
    (format : DocumentFormat) (bytes : Bytes) (list : List Picture) :
    (pictures format bytes tight = .ok list → pictures format bytes wide = .ok list) ∧
      (pictures format bytes wide = .ok list →
        pictures format bytes tight = .ok list ∨
          ∃ limit, pictures format bytes tight = .error (.tooLarge limit) ∧
            (limit = tight.maxPictureBytes ∨ limit = tight.maxStreamBytes)) := by
  have h := tightened_pictures hsteady hle format bytes
  refine ⟨h.keeps list, fun hwide => (h.refuses list hwide).imp_right ?_⟩
  rintro ⟨fault, hfault, limit, rfl, hlimit⟩
  exact ⟨limit, hfault, hlimit⟩

/-! ## A picture in a frame -/

/-- What a frame of Zstandard data holds that is one block, stored as it is. -/
def frameContent? : Bytes → Option Bytes
  | 0x28 :: 0xB5 :: 0x2F :: 0xFD :: 0x20 :: length :: first :: second :: third :: content =>
      -- The last three bits of the block header tell that the block is stored, and the last one.
      if length.toNat = content.length ∧
          Bytes.toNat [first, second, third] = 8 * content.length + 1 then
        some content
      else
        none
  | _ => none

def frames : Archive.Decoder :=
  fun stored _ count => (frameContent? stored).map (·.take count)

theorem isSteady_frames : frames.IsSteady := by
  intro stored length count content h hshort other
  rcases Option.map_eq_some_iff.1 h with ⟨whole, hwhole, rfl⟩
  rw [List.length_take] at hshort
  rw [frames, hwhole, List.take_of_length_le (by omega : whole.length ≤ count), Option.map_some]

/-- The tools that are at hand, and a decoder of frames. -/
abbrev framedToolkit : Toolkit where
  contentType? := Toolkit.builtIn.contentType?
  decoder? method := if method = 93 then some frames else none
  element? := Toolkit.builtIn.element?

theorem isSteady_framedToolkit : @Toolkit.IsSteady framedToolkit := by
  intro method decode h
  cases (Option.ite_none_right_eq_some.1 h).2
  exact isSteady_frames

open Package

/-- A file of the leaflet, stored in its own way. -/
def repacked (file : Archive.StoredFile) (packing : @Archive.Packing framedToolkit file.content) :
    @Archive.StoredFile framedToolkit :=
  @Archive.StoredFile.mk framedToolkit file.name file.content packing file.checksum file.length_lt
    file.checksum_eq

def unframed (file : Archive.StoredFile) : @Archive.StoredFile framedToolkit :=
  repacked file (@Archive.Packing.plain framedToolkit file.content)

def unframedTypes (types : StoredTypes) : @StoredTypes framedToolkit :=
  @StoredTypes.mk framedToolkit (unframed types.toStoredFile) types.types types.ofBytes_eq

def unframedLinks (links : StoredLinks) : @StoredLinks framedToolkit :=
  @StoredLinks.mk framedToolkit (unframed links.toStoredFile) links.relationships
    links.listOfBytes_eq

section Framed

-- From here on the leaflet is read with the decoder of frames.
attribute [local instance] framedToolkit

/-- The picture of the leaflet in a frame. -/
def framedImage : Archive.StoredFile :=
  repacked leafletImage
    { method := 93
      stored := [0x28, 0xB5, 0x2F, 0xFD, 0x20, 3, 25, 0, 0, 0x50, 0x4E, 0x47]
      delivers := ⟨frames, rfl, fun _ => rfl⟩ }

/-- The leaflet with its picture in a frame. -/
def framedLeaflet : Package.Miniature .word where
  types := unframedTypes leafletTypes
  links := unframedLinks leafletLinks
  text := unframed leafletText
  textLinks := unframedLinks (leafletTextLinks .usual)
  others := [framedImage]
  entries_eq := by decide +kernel
  isDirectory_eq := by decide +kernel
  find?_types := by decide +kernel
  find?_links := by decide +kernel
  find?_text := by decide +kernel
  find?_textLinks := by decide +kernel
  target_eq := by decide +kernel
  type_mem := by decide +kernel

theorem pictureParts_framedLeaflet :
    framedLeaflet.package.pictureParts (PartName.folder framedLeaflet.text.name.toList) =
      .ok ["word/media/A.png".toList] := by
  have hfiles : relationshipPartsUnder framedLeaflet.package.partNames
      (PartName.folder framedLeaflet.text.name.toList) =
        [(Spelling.usual.name.toList, "word/".toList)] := by
    decide +kernel
  have hlinks := framedLeaflet.relationships_package framedLeaflet.find?_textLinks
  rw [pictureParts_of_single hfiles hlinks]
  refine congrArg Except.ok ?_
  decide +kernel

def framedPicture : Picture :=
  ⟨[0x50, 0x4E, 0x47], .png, some "A.png", some "png", none⟩

theorem pictures_framedLeaflet :
    pictures .docx framedLeaflet.bytes ⟨3, 200⟩ = .ok [framedPicture] := by
  have hfile : framedLeaflet.find? "word/media/A.png".toList = some framedImage := by
    decide +kernel
  exact framedLeaflet.pictures_of_single pictureParts_framedLeaflet hfile (by decide)

/-- Under a tighter limit the picture in the frame is listed just so, or it is too large. -/
theorem pictures_of_le_framed :
    Toolkit.IsSteady ∧ (⟨2, 200⟩ : Limits) ≤ ⟨3, 200⟩ ∧
      (pictures .docx framedLeaflet.bytes ⟨2, 200⟩ = .ok [framedPicture] ∨
        ∃ limit, pictures .docx framedLeaflet.bytes ⟨2, 200⟩ = .error (.tooLarge limit) ∧
          (limit = 2 ∨ limit = 200)) := by
  have hle : (⟨2, 200⟩ : Limits) ≤ ⟨3, 200⟩ := ⟨by decide, by decide⟩
  exact ⟨isSteady_framedToolkit, hle,
    (pictures_of_le isSteady_framedToolkit hle .docx _ _).2 pictures_framedLeaflet⟩

end Framed

end Container
end OfficePictures
