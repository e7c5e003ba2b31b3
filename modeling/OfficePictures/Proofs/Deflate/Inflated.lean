import OfficePictures.Deflate.Inflate

/-!
# Inflated — what a reader sees of decompressed data

The decoder hands on what it put out as far as it is asked for, and damage behind that may go
unnoticed.  A reader who asks for more bytes than there are cannot miss it.

* `IsWhole` — decompressed data that was put out to its end;
* `IsWhole.read?` — a reader gets as much of it as it asks for;
* `isWhole_of_read?` — a reader who gets less than it asked for has it all.
-/

namespace OfficePictures
namespace Deflate

theorem windowStart_le (length : Nat) : windowStart length ≤ length := by
  have hwhole := Nat.div_mul_le_self (length - 1) windowLength
  unfold windowStart
  omega

namespace Inflated

/-- The decoder reached the end of its data, and put out `bytes`. -/
structure IsWhole (inflated : Inflated) (bytes : Bytes) : Prop where
  failure_eq : inflated.failure = none
  output_eq : inflated.output.data.toList = bytes

variable {inflated : Inflated} {bytes : Bytes} {count : Nat}

theorem toList_extract (output : ByteArray) (count : Nat) :
    (output.extract 0 (min count output.size)).data.toList = output.data.toList.take count := by
  have hsize : output.size = output.data.toList.length := rfl
  rw [ByteArray.data_extract, Array.toList_extract, List.extract_eq_take_drop, List.drop_zero,
    Nat.sub_zero, hsize, ← List.take_eq_take_min]

/-- What a reader gets is the beginning of what the decoder put out. -/
theorem eq_take_of_read? (h : inflated.read? count = some bytes) :
    bytes = inflated.output.data.toList.take count := by
  unfold read? at h
  rw [toList_extract] at h
  cases hfailure : inflated.failure with
  | none =>
      rw [hfailure] at h
      exact (Option.some.inj h).symm
  | some failure =>
      rw [hfailure] at h
      cases failure <;>
        exact (Option.some.inj (Option.ite_none_left_eq_some.1 h).2).symm

/-- A decoder that failed gives nothing to a reader who asks for more than it put out. -/
theorem read?_of_failure {failure : Failure} (hfailure : inflated.failure = some failure)
    (hshort : inflated.output.size < count) : inflated.read? count = none := by
  unfold read?
  rw [hfailure]
  cases failure with
  -- Damage is missed from the window on in which it is, an early end only behind the last byte.
  | cutOff => exact if_pos hshort
  | damaged => exact if_pos (Nat.lt_of_le_of_lt (windowStart_le _) hshort)

theorem IsWhole.read? (h : inflated.IsWhole bytes) (count : Nat) :
    inflated.read? count = some (bytes.take count) := by
  unfold Inflated.read?
  rw [h.failure_eq, toList_extract, h.output_eq]

theorem isWhole_of_read? (h : inflated.read? count = some bytes) (hshort : bytes.length < count) :
    inflated.IsWhole bytes := by
  have hbytes := eq_take_of_read? h
  have hsize : inflated.output.data.toList.length < count := by
    rw [hbytes, List.length_take] at hshort
    omega
  cases hfailure : inflated.failure with
  | none =>
      rw [List.take_of_length_le (Nat.le_of_lt hsize)] at hbytes
      exact ⟨hfailure, hbytes.symm⟩
  | some failure =>
      rw [read?_of_failure hfailure hsize] at h
      cases h

end Inflated
end Deflate
end OfficePictures
