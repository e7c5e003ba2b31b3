import OfficePictures.Proofs.Art.BlipStore
import OfficePictures.Proofs.Compound.File
import OfficePictures.Workbook

/-!
# Document — the steps to the pictures of a workbook

* `pictures_eq` — one step after the other, without a branch in between;
* `mem_pictures` — a picture is a picture of the drawing group;
* `tightened_pictures` — tighter limits give the same pictures or refuse them.
-/

namespace OfficePictures
namespace Workbook

open Compound

variable {limits tight wide : Limits} {content : Bytes}

/-- Refuses a file that holds a workbook of an old version only. -/
def requireWorkbook (file : File) : Except Fault Unit :=
  if !file.hasStream "Workbook" && file.hasStream "Book" then .error (.oldFormat .excel5)
  else .ok ()

/-- The pictures of a workbook stream. -/
def streamPictures [Toolkit] (limits : Limits) (stream : Bytes) : Except Fault (List Picture) := do
  let group ← drawingGroup stream
  let blips ← Art.blipStorePictures group 0 none limits
  return blips.mapIdx toPicture

theorem pictures_eq [Toolkit] (content : Bytes) (limits : Limits) :
    pictures content limits = (do
      let file ← File.ofBytes content
      requireWorkbook file
      let stream ← file.readStream limits "Workbook"
      streamPictures limits stream) := by
  unfold pictures streamPictures requireWorkbook
  refine bind_congr fun file => ?_
  dsimp only
  split <;> rfl

theorem requireWorkbook_eq_ok {file : File} (h : file.hasStream "Workbook" = true) :
    requireWorkbook file = .ok () := by
  rw [requireWorkbook, h]
  rfl

/-- The pictures of a workbook whose drawing group can be put together. -/
theorem pictures_eq_of_drawingGroup [Toolkit] {file : File} {stream group : Bytes}
    (hfile : File.ofBytes content = .ok file)
    (hstream : file.readStream limits "Workbook" = .ok stream)
    (hgroup : drawingGroup stream = .ok group) :
    pictures content limits =
      (Art.blipStorePictures group 0 none limits).map (·.mapIdx toPicture) := by
  have hworkbook := requireWorkbook_eq_ok (File.hasStream_of_readStream hstream)
  rw [pictures_eq, hfile]
  simp only [bind, Except.bind, hworkbook, hstream, streamPictures, hgroup]
  cases Art.blipStorePictures group 0 none limits <;> rfl

theorem mem_pictures [Toolkit] {list : List Picture} {picture : Picture}
    (h : pictures content limits = .ok list) (hmem : picture ∈ list) :
    ∃ group blips, Art.blipStorePictures group 0 none limits = .ok blips ∧
      ∃ blip ∈ blips, picture.kind = blip.kind ∧ picture.data = blip.data := by
  rw [pictures_eq] at h
  rcases Result.exists_of_bind h with ⟨file, -, h⟩
  rcases Result.exists_of_bind h with ⟨_, -, h⟩
  rcases Result.exists_of_bind h with ⟨stream, -, h⟩
  rcases Result.exists_of_bind h with ⟨group, -, h⟩
  rcases Result.exists_of_bind h with ⟨blips, hblips, h⟩
  cases h
  rcases List.mem_mapIdx.1 hmem with ⟨number, hnumber, rfl⟩
  exact ⟨group, blips, hblips, blips[number], List.getElem_mem hnumber, rfl, rfl⟩

/-! ## Tighter limits -/

section Tightened

open Result

theorem tightened_streamPictures [Toolkit] (hle : tight.maxPictureBytes ≤ wide.maxPictureBytes)
    (stream : Bytes) :
    Tightened (· = .tooLarge tight.maxPictureBytes) (streamPictures tight stream)
      (streamPictures wide stream) := by
  refine (Tightened.refl _).bind fun group => ?_
  exact (Art.tightened_blipStorePictures hle group 0 none).bind fun blips => .refl _

theorem tightened_pictures [Toolkit] (hle : tight ≤ wide) (content : Bytes) :
    Tightened tight.Refuses (pictures content tight) (pictures content wide) := by
  rw [pictures_eq, pictures_eq]
  refine (Tightened.refl _).bind fun file => ?_
  refine (Tightened.refl _).bind fun _ => ?_
  refine (file.tightened_readStream hle _).bind fun stream => ?_
  exact (tightened_streamPictures (Limits.le_pictureBytes hle) stream).mono tight.refuses_picture

end Tightened

end Workbook
end OfficePictures
