import OfficePictures.Proofs.Compound.File
import OfficePictures.Proofs.Word.InlinePicture
import OfficePictures.Word.Document

/-!
# Document — the steps to the pictures of a Word document

* `pictures_eq` — one step after the other, without a branch in between;
* `mem_pictures` — a picture is a picture of the drawing group or an inline one;
* `tightened_pictures` — tighter limits give the same pictures or refuse them.
-/

namespace OfficePictures
namespace Word

open Compound

variable {limits tight wide : Limits} {content : Bytes}

/-- The pictures of the data stream at the given locations; without a location the stream is not
asked for. -/
def dataPictures (limits : Limits) (file : File) (locations : List UInt32) :
    Except Fault (List Art.Blip) :=
  if locations = [] then
    .ok []
  else do
    match ← file.readStreamIfPresent limits "Data" with
    | none => .ok []
    | some data => inlinePictures data locations limits

theorem pictures_eq [Toolkit] (content : Bytes) (limits : Limits) :
    pictures content limits = (do
      let file ← File.ofBytes content
      let stream ← file.readStream limits "WordDocument"
      let fib ← Fib.read stream
      let table ← file.readStream limits fib.tableStream.name
      let stored ← drawingGroupPictures limits fib stream table
      let locations ← inlineLocations fib stream table
      let inlined ← dataPictures limits file locations
      return (stored ++ inlined).map toPicture) := by
  unfold pictures dataPictures
  refine bind_congr fun file => bind_congr fun stream => bind_congr fun fib => ?_
  refine bind_congr fun table => bind_congr fun stored => bind_congr fun locations => ?_
  by_cases hnone : locations = []
  · rw [if_pos hnone, if_pos hnone]
    rfl
  · rw [if_neg hnone, if_neg hnone]
    cases file.readStreamIfPresent limits "Data" with
    | error fault => rfl
    | ok found => cases found <;> rfl

theorem drawingGroupPictures_eq {fib : Fib} {stream table group : Bytes} {range : TableRange}
    (hrange : fib.drawingGroup = some range)
    (hgroup : tablePart .drawingGroup fib.tableStream table range = .ok group) :
    drawingGroupPictures limits fib stream table =
      Art.blipStorePictures group range.offset (some ⟨stream, 0⟩) limits := by
  simp only [drawingGroupPictures, hrange, hgroup, bind, Except.bind]

theorem dataPictures_eq {file : File} {locations : List UInt32} {data : Bytes}
    (hsome : locations ≠ [])
    (hdata : file.readStreamIfPresent limits "Data" = .ok (some data)) :
    dataPictures limits file locations = inlinePictures data locations limits := by
  rw [dataPictures, if_neg hsome, hdata]
  rfl

/-! ## Where pictures come from -/

/-- What a document is read from: its streams and what its file information block tells. -/
structure Reading (content : Bytes) (limits : Limits) where
  file : File
  stream : Bytes
  fib : Fib
  table : Bytes
  locations : List UInt32
  ofBytes : File.ofBytes content = .ok file
  readStream : file.readStream limits "WordDocument" = .ok stream
  readFib : Fib.read stream = .ok fib
  readTable : file.readStream limits fib.tableStream.name = .ok table
  inlineLocations : inlineLocations fib stream table = .ok locations

/-- What can be read gives the pictures of the drawing group, then the inline ones. -/
theorem Reading.pictures_eq_ok [Toolkit] (reading : Reading content limits)
    {stored inlined : List Art.Blip}
    (hstored : drawingGroupPictures limits reading.fib reading.stream reading.table = .ok stored)
    (hinlined : dataPictures limits reading.file reading.locations = .ok inlined) :
    pictures content limits = .ok ((stored ++ inlined).map toPicture) := by
  rw [pictures_eq, reading.ofBytes]
  simp only [bind, Except.bind, reading.readStream, reading.readFib, reading.readTable, hstored,
    reading.inlineLocations, hinlined, pure, Except.pure]

theorem mem_pictures [Toolkit] {list : List Picture} {picture : Picture}
    (h : pictures content limits = .ok list) (hmem : picture ∈ list) :
    ∃ (reading : Reading content limits) (blip : Art.Blip), picture = toPicture blip ∧
      ((∃ range group blips, reading.fib.drawingGroup = some range ∧
          range.slice? reading.table = some group ∧
          Art.blipStorePictures group range.offset (some ⟨reading.stream, 0⟩) limits = .ok blips ∧
          blip ∈ blips) ∨
        ∃ data blips, reading.file.readStream limits "Data" = .ok data ∧
          inlinePictures data reading.locations limits = .ok blips ∧ blip ∈ blips) := by
  rw [pictures_eq] at h
  rcases Result.exists_of_bind h with ⟨file, hfile, h⟩
  rcases Result.exists_of_bind h with ⟨stream, hstream, h⟩
  rcases Result.exists_of_bind h with ⟨fib, hfib, h⟩
  rcases Result.exists_of_bind h with ⟨table, htable, h⟩
  rcases Result.exists_of_bind h with ⟨stored, hstored, h⟩
  rcases Result.exists_of_bind h with ⟨locations, hlocations, h⟩
  rcases Result.exists_of_bind h with ⟨inlined, hinlined, h⟩
  cases h
  rcases List.mem_map.1 hmem with ⟨blip, hblip, rfl⟩
  refine ⟨⟨file, stream, fib, table, locations, hfile, hstream, hfib, htable, hlocations⟩, blip,
    rfl, ?_⟩
  rcases List.mem_append.1 hblip with hblip | hblip
  · left
    unfold drawingGroupPictures at hstored
    split at hstored
    · cases hstored
      cases hblip
    · rename_i range hrange
      rcases Result.exists_of_bind hstored with ⟨group, hgroup, hstored⟩
      refine ⟨range, group, stored, hrange, ?_, hstored, hblip⟩
      unfold tablePart at hgroup
      split at hgroup
      · rename_i bytes hbytes
        cases hgroup
        exact hbytes
      · cases hgroup
  · right
    unfold dataPictures at hinlined
    split at hinlined
    · cases hinlined
      cases hblip
    · rcases Result.exists_of_bind hinlined with ⟨found, hfound, hinlined⟩
      cases found with
      | none =>
          cases hinlined
          cases hblip
      | some data => exact ⟨data, inlined, File.readStream_of_ifPresent hfound, hinlined, hblip⟩

/-! ## Tighter limits -/

section Tightened

open Result

theorem tightened_drawingGroupPictures (hle : tight.maxPictureBytes ≤ wide.maxPictureBytes)
    (fib : Fib) (stream table : Bytes) :
    Tightened (· = .tooLarge tight.maxPictureBytes) (drawingGroupPictures tight fib stream table)
      (drawingGroupPictures wide fib stream table) := by
  unfold drawingGroupPictures
  split
  · exact .refl _
  · exact (Tightened.refl _).bind fun group => Art.tightened_blipStorePictures hle _ _ _

theorem tightened_dataPictures (hle : tight ≤ wide) (file : File) (locations : List UInt32) :
    Tightened tight.Refuses (dataPictures tight file locations)
      (dataPictures wide file locations) := by
  unfold dataPictures
  split
  · exact .refl _
  · refine (file.tightened_readStreamIfPresent hle "Data").bind fun found => ?_
    cases found with
    | none => exact .refl _
    | some data =>
        exact (tightened_inlinePictures (Limits.le_pictureBytes hle) data locations).mono
          tight.refuses_picture

theorem tightened_pictures [Toolkit] (hle : tight ≤ wide) (content : Bytes) :
    Tightened tight.Refuses (pictures content tight) (pictures content wide) := by
  rw [pictures_eq, pictures_eq]
  refine (Tightened.refl _).bind fun file => ?_
  refine (file.tightened_readStream hle _).bind fun stream => ?_
  refine (Tightened.refl _).bind fun fib => ?_
  refine (file.tightened_readStream hle _).bind fun table => ?_
  have hstored := tightened_drawingGroupPictures (Limits.le_pictureBytes hle) fib stream table
  refine (hstored.mono tight.refuses_picture).bind fun stored => ?_
  refine (Tightened.refl _).bind fun locations => ?_
  exact (tightened_dataPictures hle file locations).bind fun inlined => .refl _

end Tightened

end Word
end OfficePictures
