import OfficePictures.Config
import OfficePictures.Container
import OfficePictures.Proofs.Compound.File

/-!
# Container — what is listed of a document

* `Slideshow.pictures_eq` — the pictures of a presentation are those of one stream;
* `content_eq_pictures_iff` — pictures are listed if there are any and all of them can be read;
* `content_slides` — a small presentation, and the picture in it.
-/

namespace OfficePictures

/-! ## Presentations -/

namespace Slideshow

open Compound

/-- The pictures of a presentation that is not encrypted are those of a stream of its own. -/
theorem pictures_eq {content : Bytes} {limits : Limits} {file : File} {user : Option Bytes}
    (hfile : File.ofBytes content = .ok file)
    (hdocument : file.hasStream "PowerPoint Document" = true)
    (huser : file.readStreamIfPresent limits "Current User" = .ok user)
    (hplain : ∀ bytes ∈ user, Bytes.u32? bytes tokenOffset ≠ some encryptedToken) :
    pictures content limits =
      match file.readStreamIfPresent limits "Pictures" with
      | .error fault => .error fault
      | .ok none => .ok []
      | .ok (some stream) => streamPictures stream limits := by
  simp only [pictures, hfile, hdocument, huser, bind, Except.bind, pure, Except.pure]
  cases user with
  | none =>
      cases file.readStreamIfPresent limits "Pictures" with
      | error fault => rfl
      | ok found => cases found <;> rfl
  | some bytes =>
      simp only [if_neg (hplain bytes rfl)]
      cases file.readStreamIfPresent limits "Pictures" with
      | error fault => rfl
      | ok found => cases found <;> rfl

end Slideshow

/-! ## Documents of any format -/

namespace Container

theorem content_eq_pictures_iff [Toolkit] {format : DocumentFormat} {bytes : Bytes}
    {limits : Limits} {list : List Picture} :
    content format bytes limits = .pictures list ↔
      pictures format bytes limits = .ok list ∧ list ≠ [] := by
  unfold content
  cases pictures format bytes limits with
  | error fault => simp
  | ok found =>
      cases found with
      | nil =>
          constructor
          · intro h
            cases h
          · rintro ⟨h, hne⟩
            cases h
            exact absurd rfl hne
      | cons picture more =>
          constructor
          · intro h
            cases h
            exact ⟨rfl, List.cons_ne_nil _ _⟩
          · rintro ⟨h, -⟩
            cases h
            rfl

/-! ## A small presentation -/

open Compound

/-- The bytes of a directory entry whose name has ASCII characters only. -/
def entryBytes (name : String) (kind : UInt8) (left child start length : Nat) : Bytes :=
  let units := name.toList.flatMap fun c => [UInt8.ofNat c.toNat, 0]
  units ++ List.replicate (64 - units.length) 0 ++
    Bytes.ofNat 2 (if name = "" then 0 else units.length + 2) ++ [kind, 1] ++
    Bytes.ofNat 4 left ++ Bytes.ofNat 4 noEntry ++ Bytes.ofNat 4 child ++ List.replicate 36 0 ++
    Bytes.ofNat 4 start ++ Bytes.ofNat 8 length

def slidesStream : Bytes :=
  [0x00, 0x6E, 0x1E, 0xF0, 0x18, 0, 0, 0] ++ List.replicate 16 0x11 ++
    [0xFF, 0x50, 0x4E, 0x47, 0x44, 0x41, 0x54, 0x41]

/-- A presentation of version 3: the header, the mini stream with the pictures, the table of the
mini sectors, the directory, and the table. -/
def slides : Bytes :=
  signature ++ List.replicate 16 0 ++ [0x3E, 0, 3, 0, 0xFE, 0xFF, 9, 0, 6, 0] ++
    List.replicate 10 0 ++ Bytes.ofNat 4 1 ++ Bytes.ofNat 4 2 ++ Bytes.ofNat 4 0 ++
    Bytes.ofNat 4 miniStreamCutoff ++ Bytes.ofNat 4 1 ++ Bytes.ofNat 4 1 ++
    Bytes.ofNat 4 endOfChain ++ Bytes.ofNat 4 0 ++ Bytes.ofNat 4 3 ++ List.replicate 432 0xFF ++
    slidesStream ++ List.replicate 480 0 ++
    Bytes.ofNat 4 endOfChain ++ List.replicate 508 0xFF ++
    entryBytes "Root Entry" 5 noEntry 2 0 64 ++
    entryBytes "Pictures" 2 noEntry noEntry 0 32 ++
    entryBytes "PowerPoint Document" 2 1 noEntry endOfChain 0 ++
    entryBytes "" 0 noEntry noEntry 0 0 ++
    Bytes.ofNat 4 endOfChain ++ Bytes.ofNat 4 endOfChain ++ Bytes.ofNat 4 endOfChain ++
    Bytes.ofNat 4 tableSector ++ List.replicate 496 0xFF

def slidesEntry : Entry :=
  ⟨"Pictures".toList, .stream, noEntry, noEntry, noEntry, List.replicate 16 0, 0, 32⟩

def slidesFile : File where
  sectors := ⟨⟨slides.toArray⟩, 512⟩
  table := #[endOfChain, endOfChain, endOfChain, tableSector]
  miniTable := #[endOfChain]
  directory :=
    #[⟨"Root Entry".toList, .root, noEntry, noEntry, 2, List.replicate 16 0, 0, 64⟩,
      slidesEntry,
      ⟨"PowerPoint Document".toList, .stream, 1, noEntry, noEntry, List.replicate 16 0, endOfChain,
        0⟩,
      ⟨[], .unallocated, noEntry, noEntry, noEntry, List.replicate 16 0, 0, 0⟩]

def slidesHeader : Header :=
  ⟨.three, 2, 1, endOfChain, [3]⟩

theorem header_slides : Header.ofBytes? (slides.take headerLength) = some slidesHeader := by
  decide +kernel

theorem table_slides : table? slidesFile.sectors slidesHeader = some slidesFile.table := by
  unfold table?
  rw [Sectors.getWhole?_eq_wholeSlice?]
  decide +kernel

theorem directory_slides :
    directory? slidesFile.sectors slidesFile.table slidesHeader = some slidesFile.directory := by
  unfold directory?
  rw [Sectors.getWhole?_eq_wholeSlice?]
  decide +kernel

theorem miniTable_slides :
    miniTable? slidesFile.sectors slidesFile.table slidesFile.directory slidesHeader =
      some slidesFile.miniTable := by
  unfold miniTable?
  rw [Sectors.getWhole?_eq_wholeSlice?]
  decide +kernel

theorem ofBytes_slides : File.ofBytes slides = .ok slidesFile := by
  have hsectors : slidesFile.sectors = ⟨⟨slides.toArray⟩, slidesHeader.version.sectorLength⟩ := rfl
  have hlength : slidesFile.sectors.length ≤ slidesFile.sectors.file.size := by
    decide +kernel
  have hopen : File.open? slides = some slidesFile :=
    File.open?_eq_some header_slides hsectors hlength table_slides directory_slides miniTable_slides
  rw [File.ofBytes, hopen]

/-- The limits that a configuration has if none are given. -/
def slidesLimits : Limits :=
  ⟨Config.defaultPictureBytes, Config.defaultStreamBytes⟩

theorem readStream_slides :
    slidesFile.readStreamIfPresent slidesLimits "Pictures" = .ok (some slidesStream) := by
  have hentry : slidesFile.stream? "Pictures" = some slidesEntry := by
    decide +kernel
  have hfits : slidesEntry.length ≤ slidesLimits.maxStreamBytes := by
    decide +kernel
  have hbytes : slidesFile.streamBytes? slidesEntry = some slidesStream := by
    unfold File.streamBytes? File.miniSector?
    rw [Sectors.get_eq_slice]
    decide +kernel
  exact File.readStreamIfPresent_eq_some hentry hfits hbytes

def slidesPicture : Picture :=
  ⟨[0x50, 0x4E, 0x47, 0x44, 0x41, 0x54, 0x41], .png, some "image_0.png", some "png", none⟩

theorem streamPictures_slides :
    Slideshow.streamPictures slidesStream slidesLimits = .ok [slidesPicture] := by
  have hlisted : (Slideshow.streamPictures slidesStream slidesLimits).toOption =
      some [slidesPicture] := by
    decide +kernel
  cases hresult : Slideshow.streamPictures slidesStream slidesLimits with
  | error fault =>
      rw [hresult] at hlisted
      cases hlisted
  | ok list =>
      rw [hresult] at hlisted
      cases hlisted
      rfl

theorem content_slides [Toolkit] :
    content .ppt slides slidesLimits = .pictures [slidesPicture] := by
  have hdocument : slidesFile.hasStream "PowerPoint Document" = true := by
    decide +kernel
  have huser : slidesFile.readStreamIfPresent slidesLimits "Current User" = .ok none :=
    File.readStreamIfPresent_eq_none (by decide +kernel)
  -- Without content: nothing is evaluated to see that the formats agree.
  have hformat : pictures .ppt = Slideshow.pictures := rfl
  refine content_eq_pictures_iff.2 ⟨?_, List.cons_ne_nil _ _⟩
  rw [hformat, Slideshow.pictures_eq ofBytes_slides hdocument huser (fun _ h => nomatch h),
    readStream_slides]
  exact streamPictures_slides

end Container
end OfficePictures
