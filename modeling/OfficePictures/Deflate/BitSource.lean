import OfficePictures.Bytes

/-!
# BitSource — bits taken from bytes

Compressed data is read bit by bit, the least significant bit of each byte first.  A source holds
the bits that are left of the current byte and the bytes after it.

Every reader of this folder returns what is left together with a proof that it has not grown, which
is what makes the decoders total.
-/

namespace OfficePictures
namespace Deflate

/-- Why a decoder stopped before the end of its data. -/
inductive Failure
  /-- The input ended too early. -/
  | cutOff
  /-- The input is no compressed data. -/
  | damaged
  deriving DecidableEq, Repr

/-- The bits left of the current byte, and the bytes after it. -/
structure BitSource where
  pending : List Bool
  bytes : Bytes
  deriving DecidableEq, Repr

namespace BitSource

def ofBytes (bytes : Bytes) : BitSource :=
  ⟨[], bytes⟩

def size (source : BitSource) : Nat :=
  source.pending.length + 8 * source.bytes.length

/-- What can be left after reading from `source`. -/
abbrev Rest (source : BitSource) : Type :=
  { rest : BitSource // rest.size ≤ source.size }

/-- What can be left after reading at least one bit from `source`. -/
abbrev Shorter (source : BitSource) : Type :=
  { rest : BitSource // rest.size < source.size }

theorem size_le_trans {source next rest : BitSource} (hnext : next.size ≤ source.size)
    (hrest : rest.size ≤ next.size) : rest.size ≤ source.size :=
  Nat.le_trans hrest hnext

theorem size_le_of_lt {source rest : BitSource} (h : rest.size < source.size) :
    rest.size ≤ source.size :=
  Nat.le_of_lt h

theorem size_lt_of_lt_of_le {source next rest : BitSource} (hnext : next.size < source.size)
    (hrest : rest.size ≤ next.size) : rest.size < source.size :=
  Nat.lt_of_le_of_lt hrest hnext

def next? : BitSource → Option (Bool × BitSource)
  | ⟨bit :: pending, bytes⟩ => some (bit, ⟨pending, bytes⟩)
  | ⟨[], []⟩ => none
  | ⟨[], byte :: bytes⟩ =>
      some (byte.toNat.testBit 0,
        ⟨(List.range' 1 7).map byte.toNat.testBit, bytes⟩)

theorem size_next? {source rest : BitSource} {bit : Bool} :
    source.next? = some (bit, rest) → rest.size < source.size := by
  intro h
  obtain ⟨pending, bytes⟩ := source
  cases pending with
  | nil =>
      cases bytes with
      | nil =>
          simp [next?] at h
      | cons byte bytes =>
          simp only [next?, Option.some.injEq, Prod.mk.injEq] at h
          rw [← h.2]
          simp only [size, List.length_map, List.length_range', List.length_cons,
            List.length_nil]
          omega
  | cons bit' pending =>
      simp only [next?, Option.some.injEq, Prod.mk.injEq] at h
      rw [← h.2]
      simp [size]

/-- The next `count` bits as a number, the first bit being the least significant. -/
def take (source : BitSource) : (count : Nat) → Except Failure (Nat × Rest source)
  | 0 => .ok (0, ⟨source, Nat.le_refl _⟩)
  | count + 1 =>
      match h : source.next? with
      | none => .error .cutOff
      | some (bit, rest) =>
          match rest.take count with
          | .error failure => .error failure
          | .ok (value, ⟨last, hlast⟩) =>
              .ok (bit.toNat + 2 * value,
                ⟨last, Nat.le_trans hlast (Nat.le_of_lt (size_next? h))⟩)

def align (source : BitSource) : Rest source :=
  ⟨⟨[], source.bytes⟩, by simp [size]⟩

end BitSource
end Deflate
end OfficePictures
