import OfficePictures.Proofs.Art.Metafile
import OfficePictures.Proofs.Container
import OfficePictures.Proofs.Package.Document
import OfficePictures.Proofs.Slideshow
import OfficePictures.Proofs.Word.Location
import OfficePictures.Proofs.Workbook.Document
import OfficePictures.Toolkit.BuiltIn

/-!
# PictureLength — how long the pictures of a document can be

The limit is about what a document stores of a picture.  What decoding puts in front of a metafile
comes on top of it.

* `Limits.Admits` — a picture that is within the limit without what files of its kind begin with;
* `content_admits` — the limit admits each picture of a document, and the pictures of packages are
  within the limit as they are;
* `not_forall_length_le` — a picture that is longer than the limit.
-/

namespace OfficePictures

/-- The picture is within the limit, at least without the header of a placeable metafile or the
zeros in front of a PICT file. -/
def Limits.Admits (limits : Limits) (kind : PictureKind) (data : Bytes) : Prop :=
  ∃ preamble payload, data = preamble ++ payload ∧
    payload.length ≤ limits.maxPictureBytes ∧
      (preamble = [] ∨ kind = .wmf ∧ preamble.length = 22 ∨
        kind = .pict ∧ preamble = List.replicate 512 0)

variable {limits : Limits}

theorem Limits.admits_of_length_le {kind : PictureKind} {data : Bytes}
    (h : data.length ≤ limits.maxPictureBytes) : limits.Admits kind data :=
  ⟨[], data, rfl, h, .inl rfl⟩

/-! ## Records -/

namespace Art

theorem filePreamble_cases (kind : PictureKind) (metafileHeader content : Bytes) :
    filePreamble kind metafileHeader content = [] ∨
      kind = .wmf ∧ (filePreamble kind metafileHeader content).length = 22 ∨
        kind = .pict ∧ filePreamble kind metafileHeader content = List.replicate 512 0 := by
  cases kind with
  | wmf =>
      unfold filePreamble
      dsimp only
      split
      · exact .inl rfl
      · exact .inr (.inl ⟨rfl, length_placeableHeader metafileHeader⟩)
  | pict => exact .inr (.inr ⟨rfl, rfl⟩)
  | emf | jpeg | png | dib | tiff | unknown => exact .inl rfl

theorem Blip.admits_of_decode {record : Record} {blip : Blip}
    (h : Blip.decode limits record = .ok blip) : limits.Admits blip.kind blip.data := by
  rcases Record.stores_of_decode h with ⟨-, content, -, hfits, rfl⟩
  exact ⟨_, content, rfl, hfits, filePreamble_cases _ _ _⟩

theorem admits_of_blipStorePictures {data : Bytes} {base : Nat} {delay : Option DelayStream}
    {list : List Blip} {blip : Blip} (h : blipStorePictures data base delay limits = .ok list)
    (hmem : blip ∈ list) : limits.Admits blip.kind blip.data := by
  rcases mem_blipStorePictures h hmem with
    ⟨_, -, _, -, _, -, -, _, _, -, -, hdecode⟩
  exact Blip.admits_of_decode hdecode

end Art

/-! ## Documents of each format -/

namespace Word

theorem admits_of_inlinePictures {stream : Bytes} {locations : List UInt32}
    {list : List Art.Blip} {blip : Art.Blip} (h : inlinePictures stream locations limits = .ok list)
    (hmem : blip ∈ list) : limits.Admits blip.kind blip.data := by
  rcases mem_inlinePictures h hmem with ⟨_, -, _, -, found, hfound, hblip⟩
  -- A bare metafile is checked as it is listed; the others are decoded from records.
  rcases mem_blockPictures hfound hblip with ⟨_, -, _, -, yielded, hyielded, hblip⟩ | ⟨-, hfits⟩
  · rcases mem_recordPictures hyielded hblip with ⟨_, _, -, -, -, hdecode⟩ | ⟨-, hdecode⟩
    · exact Art.Blip.admits_of_decode hdecode
    · exact Art.Blip.admits_of_decode hdecode
  · exact Limits.admits_of_length_le hfits

theorem admits_of_pictures [Toolkit] {content : Bytes} {list : List Picture} {picture : Picture}
    (h : pictures content limits = .ok list) (hmem : picture ∈ list) :
    limits.Admits picture.kind picture.data := by
  rcases mem_pictures h hmem with
    ⟨_, blip, rfl, ⟨_, _, blips, -, -, hblips, hblip⟩ | ⟨_, blips, -, hblips, hblip⟩⟩
  · exact Art.admits_of_blipStorePictures hblips hblip
  · exact admits_of_inlinePictures hblips hblip

end Word

namespace Slideshow

theorem admits_of_pictures {content : Bytes} {list : List Picture} {picture : Picture}
    (h : pictures content limits = .ok list) (hmem : picture ∈ list) :
    limits.Admits picture.kind picture.data := by
  rcases mem_pictures h hmem with ⟨record, blip, hdecode, hkind, hdata⟩
  have hblip : blip.kind = record.kind := by
    rcases Art.Record.stores_of_decode hdecode with ⟨-, _, -, -, rfl⟩
    rfl
  rw [hkind, hdata, ← hblip]
  exact Art.Blip.admits_of_decode hdecode

end Slideshow

namespace Workbook

theorem admits_of_pictures [Toolkit] {content : Bytes} {list : List Picture} {picture : Picture}
    (h : pictures content limits = .ok list) (hmem : picture ∈ list) :
    limits.Admits picture.kind picture.data := by
  rcases mem_pictures h hmem with ⟨_, blips, hblips, blip, hblip, hkind, hdata⟩
  rw [hkind, hdata]
  exact Art.admits_of_blipStorePictures hblips hblip

end Workbook

namespace Package

theorem length_le_of_pictures [Toolkit] {application : Application} {bytes : Bytes}
    {list : List Picture} {picture : Picture} (h : pictures application bytes limits = .ok list)
    (hmem : picture ∈ list) : picture.data.length ≤ limits.maxPictureBytes := by
  rcases mem_pictures h hmem with ⟨_, hread⟩
  exact Archive.Entry.length_le_of_read hread

end Package

/-! ## Documents of any format -/

namespace Container

/-- The formats whose documents are packages. -/
def IsPackage (format : DocumentFormat) : Prop :=
  format = .docx ∨ format = .pptx ∨ format = .xlsx

/-- The limit admits each picture of a document, and no picture of a package is longer than the
limit. -/
theorem content_admits [Toolkit] {format : DocumentFormat} {bytes : Bytes} {list : List Picture}
    (h : content format bytes limits = .pictures list) {picture : Picture}
    (hmem : picture ∈ list) :
    limits.Admits picture.kind picture.data ∧
      (IsPackage format → picture.data.length ≤ limits.maxPictureBytes) := by
  have hlist := (content_eq_pictures_iff.1 h).1
  cases format with
  | doc => exact ⟨Word.admits_of_pictures hlist hmem, by rintro (h | h | h) <;> cases h⟩
  | ppt => exact ⟨Slideshow.admits_of_pictures hlist hmem, by rintro (h | h | h) <;> cases h⟩
  | xls => exact ⟨Workbook.admits_of_pictures hlist hmem, by rintro (h | h | h) <;> cases h⟩
  | docx | pptx | xlsx =>
      have hfits := Package.length_le_of_pictures hlist hmem
      exact ⟨Limits.admits_of_length_le hfits, fun _ => hfits⟩

/-! ## A metafile that is longer than the limit -/

theorem content_letter [Toolkit] :
    content .doc Word.letter.bytes Word.letterLimits =
      .pictures ((Word.letterStored ++ Word.letterInlined).map Word.toPicture) :=
  content_eq_pictures_iff.2 ⟨Word.pictures_letter, List.cons_ne_nil _ _⟩

/-- What is listed of the metafile in the letter. -/
def letterMetafile [Toolkit] : Picture :=
  Word.toPicture ⟨.wmf, Art.placeableHeader (List.replicate 34 0) ++ [0x57], 130⟩

theorem letterMetafile_mem [Toolkit] :
    letterMetafile ∈ (Word.letterStored ++ Word.letterInlined).map Word.toPicture :=
  List.mem_cons_self ..

theorem content_admits_letter :
    letterMetafile ∈ (Word.letterStored ++ Word.letterInlined).map Word.toPicture ∧
      Word.letterLimits.Admits letterMetafile.kind letterMetafile.data :=
  ⟨letterMetafile_mem, (content_admits content_letter letterMetafile_mem).1⟩

/-- The limit does not bound the pictures of binary documents as they are listed: with its header
the metafile of the letter has 23 bytes, where four are allowed. -/
theorem not_forall_length_le :
    ¬ ∀ (format : DocumentFormat) (bytes : Bytes) (limits : Limits) (list : List Picture),
      content format bytes limits = .pictures list →
        ∀ picture ∈ list, picture.data.length ≤ limits.maxPictureBytes := by
  intro hbound
  have hlong := hbound .doc _ _ _ content_letter letterMetafile letterMetafile_mem
  rw [letterMetafile, Word.toPicture, List.length_append, Art.length_placeableHeader] at hlong
  exact absurd hlong (by decide)

end Container
end OfficePictures
