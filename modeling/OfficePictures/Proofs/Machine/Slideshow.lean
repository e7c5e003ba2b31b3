import OfficePictures.Proofs.Machine.Blip
import OfficePictures.Proofs.Slideshow.Listing

/-!
# Slideshow — streams of pictures read in machine words

The pictures of a presentation are taken one after the other; the number of a picture is that of the
pictures in front of it.  Records of other types are not looked at, and their pictures would not be
listed either.

* `fold_taking` — pictures that are numbered while they are taken;
* `streamPictures_eq` — they are found without a trap.
-/

namespace OfficePictures

/-! ## Numbers that are counted -/

namespace Slideshow

/-- Takes the picture of a record of a listed kind behind those found before. -/
def taking (limits : Limits) (found : List Picture) (record : Art.Record) :
    Except Fault (List Picture) :=
  match listedExtension? record.kind with
  | none => .ok found
  | some extension => do
      let blip ← Art.Blip.decode limits record
      return found ++ [toPicture found.length extension record blip]

theorem fold_taking (limits : Limits) (found : List Picture) (walk : Walk Fault Art.Record) :
    walk.fold (taking limits) found =
      (recordPictures limits walk.obstacle found.length walk.items).map (found ++ ·) := by
  rcases walk with ⟨records, obstacle⟩
  induction records generalizing found with
  | nil =>
      cases obstacle with
      | none => exact congrArg Except.ok (List.append_nil found).symm
      | some fault => rfl
  | cons record records ih =>
      refine (Walk.fold_cons (taking limits) found record ⟨records, obstacle⟩).trans ?_
      dsimp only
      rw [recordPictures_cons, taking]
      cases listedExtension? record.kind with
      | none => exact ih found
      | some extension =>
          cases Art.Blip.decode limits record with
          | error fault => rfl
          | ok blip =>
              refine (ih _).trans ?_
              rw [List.length_append, List.length_singleton]
              dsimp only
              cases recordPictures limits obstacle (found.length + 1) records with
              | error fault => rfl
              | ok more => exact congrArg Except.ok (List.append_assoc _ _ _)

/-- Listed pictures are in picture records. -/
theorem isBlip_of_listedExtension? {record : Art.Record} {extension : String}
    (h : listedExtension? record.kind = some extension) : record.header.isBlip = true := by
  have htypes : ∀ entry ∈ listedTypes, (0xF018 ≤ entry.1 && entry.1 ≤ 0xF117) = true := by
    decide
  rw [Art.Record.kind, listedExtension?_ofRecordType] at h
  rcases List.lookup_eq_some_iff.1 h with ⟨front, back, heq, -⟩
  have hmem : (record.header.recType, extension) ∈ listedTypes := by
    rw [heq]
    exact List.mem_append_right _ (List.mem_cons_self ..)
  exact htypes _ hmem

end Slideshow

namespace Machine

open Slideshow

/-! ## Pictures -/

/-- Takes the picture of a record behind those found before. -/
def takeSlide (limits : Limits) (found : List Picture) (record : Art.Record) :
    Attempt (List Picture) :=
  if record.header.isBlip then
    match listedExtension? record.kind with
    | none => return found
    | some extension => do
        let blip ← decode limits record
        return found ++ [toPicture found.length extension record blip]
  else
    return found

def streamPictures (stream : Bytes) (limits : Limits) : Attempt (List Picture) :=
  walk stream 0 (takeSlide limits) [] 0

theorem takeSlide_eq {limits : Limits} {record : Art.Record} (hoffset : record.offset < 2 ^ 63)
    (found : List Picture) : takeSlide limits found record = .of (taking limits found record) := by
  unfold takeSlide taking
  cases hlisted : listedExtension? record.kind with
  | none => cases record.header.isBlip <;> rfl
  | some extension =>
      rw [if_pos (isBlip_of_listedExtension? hlisted)]
      dsimp only
      rw [decode_eq hoffset]
      cases Art.Blip.decode limits record <;> rfl

/-- The pictures of a small stream are found without a trap. -/
theorem streamPictures_eq {stream : Bytes} (hstream : stream.length < 2 ^ 62) (limits : Limits) :
    streamPictures stream limits = .of (Slideshow.streamPictures stream limits) := by
  have hroom : HasRoom stream 0 := by
    unfold HasRoom
    omega
  have hstep : ∀ found record, record.LiesIn stream 0 →
      takeSlide limits found record = .of (taking limits found record) :=
    fun found record hlies => takeSlide_eq (hroom.offset_lt hlies) found
  unfold streamPictures Slideshow.streamPictures
  rw [walk_eq hroom hstep [] (Nat.zero_le _), fold_taking, List.drop_zero, Nat.add_zero]
  dsimp only [List.length_nil]
  cases recordPictures limits (Art.Record.scan stream 0).obstacle 0
    (Art.Record.scan stream 0).items <;> rfl

end Machine
end OfficePictures
