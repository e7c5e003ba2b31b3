import OfficePictures.Proofs.Art.Blip
import OfficePictures.Proofs.Compound.File
import OfficePictures.Slideshow

/-!
# Slideshow — the steps to the pictures of a presentation

* `pictures_eq_steps` — one step after the other, without a branch in between;
* `mem_pictures` — a picture is decoded from a record of the stream of pictures;
* `tightened_pictures` — tighter limits give the same pictures or refuse them.
-/

namespace OfficePictures
namespace Slideshow

open Compound

variable {limits tight wide : Limits} {content : Bytes} {list : List Picture} {picture : Picture}

/-! ## Records -/

/-- What is listed of a record of a listed kind. -/
def toPicture (number : Nat) (extension : String) (record : Art.Record) (blip : Art.Blip) :
    Picture where
  data := blip.data
  kind := record.kind
  name := some (sequentialName number extension)
  extension := some extension
  modified := none

theorem recordPictures_cons (limits : Limits) (obstacle : Option Fault) (number : Nat)
    (record : Art.Record) (records : List Art.Record) :
    recordPictures limits obstacle number (record :: records) =
      match listedExtension? record.kind with
      | none => recordPictures limits obstacle number records
      | some extension => do
          let blip ← Art.Blip.decode limits record
          let more ← recordPictures limits obstacle (number + 1) records
          return toPicture number extension record blip :: more := by
  have hkind : record.kind = PictureKind.ofRecordType record.header.recType := rfl
  rw [recordPictures, ← hkind]
  cases listedExtension? record.kind with
  | none => rfl
  | some extension =>
      cases Art.Blip.decode limits record with
      | error fault => rfl
      | ok blip =>
          cases recordPictures limits obstacle (number + 1) records <;>
            simp only [toPicture, bind, Except.bind, pure, Except.pure]

theorem mem_recordPictures {obstacle : Option Fault} {number : Nat} {records : List Art.Record}
    (h : recordPictures limits obstacle number records = .ok list) (hmem : picture ∈ list) :
    ∃ record ∈ records, ∃ blip, Art.Blip.decode limits record = .ok blip ∧
      picture.kind = record.kind ∧ picture.data = blip.data := by
  induction records generalizing number list with
  | nil =>
      cases obstacle with
      | none =>
          cases h
          cases hmem
      | some fault => cases h
  | cons record records ih =>
      rw [recordPictures_cons] at h
      split at h
      · rcases ih h hmem with ⟨other, hother, hblip⟩
        exact ⟨other, List.mem_cons_of_mem _ hother, hblip⟩
      · rcases Result.exists_of_bind h with ⟨blip, hdecode, h⟩
        rcases Result.exists_of_bind h with ⟨more, hmore, h⟩
        cases h
        rcases List.mem_cons.1 hmem with rfl | hrest
        · exact ⟨record, List.mem_cons_self .., blip, hdecode, rfl, rfl⟩
        · rcases ih hmore hrest with ⟨other, hother, hblip⟩
          exact ⟨other, List.mem_cons_of_mem _ hother, hblip⟩

/-! ## Steps -/

def requireDocument (file : File) : Except Fault Unit :=
  if file.hasStream "PowerPoint Document" then .ok ()
  else if file.hasStream "Header" then .error (.oldFormat .powerPoint95)
  else .error (.notOpened (.streamMissing "PowerPoint Document"))

/-- Refuses a presentation whose stream of the current user says that it is encrypted. -/
def requirePlain : Option Bytes → Except Fault Unit
  | none => .ok ()
  | some user =>
      if Bytes.u32? user tokenOffset = some encryptedToken then .error .encrypted else .ok ()

/-- The pictures of the stream of pictures, if there is such a stream. -/
def storedPictures (limits : Limits) : Option Bytes → Except Fault (List Picture)
  | none => .ok []
  | some stream => streamPictures stream limits

theorem pictures_eq_steps (content : Bytes) (limits : Limits) :
    pictures content limits = (do
      let file ← File.ofBytes content
      requireDocument file
      let user ← file.readStreamIfPresent limits "Current User"
      requirePlain user
      let stream ← file.readStreamIfPresent limits "Pictures"
      storedPictures limits stream) := by
  unfold pictures
  refine bind_congr fun file => ?_
  rw [requireDocument]
  cases file.hasStream "PowerPoint Document" with
  | false => cases file.hasStream "Header" <;> rfl
  | true =>
      refine bind_congr fun user => ?_
      -- Without a stream of the user, and behind a look at it, the same step is left.
      have hstored : ∀ found : Except Fault (Option Bytes), (do
          match ← found with
          | none => return []
          | some stream => streamPictures stream limits) = found >>= storedPictures limits := by
        intro found
        cases found with
        | error fault => rfl
        | ok stream => cases stream <;> rfl
      cases user with
      | none => exact hstored _
      | some user =>
          rw [requirePlain]
          dsimp only
          split
          · rfl
          · exact hstored _

theorem mem_pictures (h : pictures content limits = .ok list) (hmem : picture ∈ list) :
    ∃ record blip, Art.Blip.decode limits record = .ok blip ∧ picture.kind = record.kind ∧
      picture.data = blip.data := by
  rw [pictures_eq_steps] at h
  rcases Result.exists_of_bind h with ⟨file, -, h⟩
  rcases Result.exists_of_bind h with ⟨_, -, h⟩
  rcases Result.exists_of_bind h with ⟨user, -, h⟩
  rcases Result.exists_of_bind h with ⟨_, -, h⟩
  rcases Result.exists_of_bind h with ⟨stream, -, h⟩
  -- A presentation without a stream of pictures has no picture.
  cases stream with
  | none =>
      cases h
      cases hmem
  | some stream =>
      rcases mem_recordPictures h hmem with ⟨record, -, hblip⟩
      exact ⟨record, hblip⟩

/-! ## Tighter limits -/

section Tightened

open Result

theorem tightened_recordPictures (hle : tight.maxPictureBytes ≤ wide.maxPictureBytes)
    (obstacle : Option Fault) (number : Nat) (records : List Art.Record) :
    Tightened (· = .tooLarge tight.maxPictureBytes) (recordPictures tight obstacle number records)
      (recordPictures wide obstacle number records) := by
  induction records generalizing number with
  | nil => exact .refl _
  | cons record records ih =>
      rw [recordPictures_cons, recordPictures_cons]
      split
      · exact ih number
      · refine (Art.Blip.tightened_decode hle record).bind fun blip => ?_
        exact (ih (number + 1)).bind fun more => .refl _

theorem tightened_storedPictures (hle : tight.maxPictureBytes ≤ wide.maxPictureBytes)
    (stream : Option Bytes) :
    Tightened (· = .tooLarge tight.maxPictureBytes) (storedPictures tight stream)
      (storedPictures wide stream) := by
  cases stream with
  | none => exact .refl _
  | some stream => exact tightened_recordPictures hle _ 0 _

theorem tightened_pictures (hle : tight ≤ wide) (content : Bytes) :
    Tightened tight.Refuses (pictures content tight) (pictures content wide) := by
  rw [pictures_eq_steps, pictures_eq_steps]
  refine (Tightened.refl _).bind fun file => ?_
  refine (Tightened.refl _).bind fun _ => ?_
  refine (file.tightened_readStreamIfPresent hle _).bind fun user => ?_
  refine (Tightened.refl _).bind fun _ => ?_
  refine (file.tightened_readStreamIfPresent hle _).bind fun stream => ?_
  exact (tightened_storedPictures (Limits.le_pictureBytes hle) stream).mono tight.refuses_picture

end Tightened

end Slideshow
end OfficePictures
