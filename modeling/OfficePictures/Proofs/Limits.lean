import OfficePictures.Compound.File
import OfficePictures.Limits
import OfficePictures.Proofs.Result

/-!
# Limits — tighter and wider limits

Limits are compared one by one.  Under tighter limits a reader gives what it gives under wider ones,
or it refuses with a fault that names one of its limits.

* `Limits.Refuses` — the faults that limits can have;
* `Limits.tightened_check`, `Compound.File.tightened_readStream` — the two places where limits are
  looked at on the way to a picture.
-/

namespace OfficePictures
namespace Limits

variable {tight wide : Limits}

/-- Limits that allow no more than others, neither for pictures nor for streams. -/
instance : LE Limits where
  le tight wide :=
    tight.maxPictureBytes ≤ wide.maxPictureBytes ∧ tight.maxStreamBytes ≤ wide.maxStreamBytes

theorem le_pictureBytes (h : tight ≤ wide) : tight.maxPictureBytes ≤ wide.maxPictureBytes :=
  h.1

theorem le_streamBytes (h : tight ≤ wide) : tight.maxStreamBytes ≤ wide.maxStreamBytes :=
  h.2

/-- The fault of a document of which something is over one of the limits. -/
def Refuses (limits : Limits) (fault : Fault) : Prop :=
  ∃ limit, fault = .tooLarge limit ∧
    (limit = limits.maxPictureBytes ∨ limit = limits.maxStreamBytes)

theorem refuses_picture (limits : Limits) (fault : Fault)
    (h : fault = .tooLarge limits.maxPictureBytes) : limits.Refuses fault :=
  ⟨_, h, .inl rfl⟩

theorem refuses_stream (limits : Limits) (fault : Fault)
    (h : fault = .tooLarge limits.maxStreamBytes) : limits.Refuses fault :=
  ⟨_, h, .inr rfl⟩

/-! ## Pictures -/

theorem check_eq (limits : Limits) (length : Nat) :
    limits.check length =
      if length ≤ limits.maxPictureBytes then .ok ()
      else .error (.tooLarge limits.maxPictureBytes) := by
  unfold check
  by_cases hfits : length ≤ limits.maxPictureBytes
  · rw [if_neg (Nat.not_lt.2 hfits), if_pos hfits]
  · rw [if_pos (Nat.lt_of_not_le hfits), if_neg hfits]

theorem fits_of_check {limits : Limits} {length : Nat} (h : limits.check length = .ok ()) :
    length ≤ limits.maxPictureBytes := by
  by_cases hfits : length ≤ limits.maxPictureBytes
  · exact hfits
  · rw [check_eq, if_neg hfits] at h
    cases h

theorem tightened_check (hle : tight.maxPictureBytes ≤ wide.maxPictureBytes) (length : Nat) :
    Result.Tightened (· = .tooLarge tight.maxPictureBytes) (tight.check length)
      (wide.check length) := by
  rw [check_eq, check_eq]
  by_cases hfits : length ≤ tight.maxPictureBytes
  · rw [if_pos hfits, if_pos (Nat.le_trans hfits hle)]
    exact .refl _
  · rw [if_neg hfits]
    refine Result.Tightened.of_refusal ?_ _
    rfl

end Limits

/-! ## Streams -/

namespace Compound
namespace File

open Result

variable {tight wide : Limits}

theorem tightened_readStream (hle : tight ≤ wide) (file : File) (name : String) :
    Tightened tight.Refuses (file.readStream tight name) (file.readStream wide name) := by
  unfold readStream
  cases file.stream? name with
  | none => exact .refl _
  | some entry =>
      dsimp only
      -- The declared length decides before anything is read, and it is the same under both limits.
      by_cases hlong : tight.maxStreamBytes < entry.length
      · rw [if_pos hlong]
        exact .of_refusal (tight.refuses_stream _ rfl) _
      · have hfits : ¬ wide.maxStreamBytes < entry.length := fun hover =>
          hlong (Nat.lt_of_le_of_lt (Limits.le_streamBytes hle) hover)
        rw [if_neg hlong, if_neg hfits]
        exact .refl _

theorem tightened_readStreamIfPresent (hle : tight ≤ wide) (file : File) (name : String) :
    Tightened tight.Refuses (file.readStreamIfPresent tight name)
      (file.readStreamIfPresent wide name) := by
  unfold readStreamIfPresent
  split
  · exact (tightened_readStream hle file name).map some
  · exact .refl _

end File
end Compound
end OfficePictures
