import OfficePictures.Proofs.Machine.Guarded
import OfficePictures.Word.Fib

/-!
# Fib — the file information block read in machine words

The three arrays of the block follow one another, each after its own count of 16 bits, so that the
place of a pair is a sum of products; all of them stay far below the greatest word.

* `tableSlice?_eq` — a part of the table stream is inside or not, whatever its offset and length;
* `fib_eq` — the block is read without a trap.
-/

namespace OfficePictures
namespace Machine

open Word

/-- The part of the table stream, if the stream holds it. -/
def tableSlice? (range : TableRange) (table : Bytes) : Option Bytes :=
  field? table range.offset range.length

theorem tableSlice?_eq {range : TableRange} {table : Bytes} (h : table.length < 2 ^ 64) :
    tableSlice? range table = range.slice? table :=
  field?_eq (.inr h)

/-! ## Fields -/

def field16 (stream : Bytes) (offset : Nat) : Attempt UInt16 := do
  match ← u16? stream offset with
  | some value => return value
  | none => throw (.notOpened .fibTruncated)

def field32 (stream : Bytes) (offset : Nat) : Attempt UInt32 := do
  match ← u32? stream offset with
  | some value => return value
  | none => throw (.notOpened .fibTruncated)

/-- The part that a pair tells, of `count` pairs that begin at `start`. -/
def pair (stream : Bytes) (start count index : Nat) : Attempt (Option TableRange) :=
  if count ≤ index then
    return none
  else do
    let place ← add start (← mul index 8)
    let offset ← field32 stream place
    let length ← field32 stream (← add place 4)
    return if length = 0 then none else some ⟨offset.toNat, length.toNat⟩

section Fields

variable {stream : Bytes} {offset : Nat}

theorem field16_eq (h : offset + 2 < 2 ^ 64) :
    field16 stream offset = .of (Fib.field16 stream offset) := by
  unfold field16 Fib.field16
  rw [Attempt.lift_bind (u16?_eq (.inl h))]
  cases Bytes.u16? stream offset <;> rfl

theorem field32_eq (h : offset + 4 < 2 ^ 64) :
    field32 stream offset = .of (Fib.field32 stream offset) := by
  unfold field32 Fib.field32
  rw [Attempt.lift_bind (u32?_eq (.inl h))]
  cases Bytes.u32? stream offset <;> rfl

theorem pair_eq {start count index : Nat} (h : start + 8 * index + 8 < 2 ^ 64) :
    pair stream start count index = .of (Fib.pair stream start count index) := by
  unfold pair Fib.pair
  refine Attempt.ite_of (fun _ => rfl) fun _ => ?_
  have hplace : start + index * 8 = start + 8 * index := by omega
  rw [Attempt.lift_bind (mul_eq (by omega)), Attempt.lift_bind (add_eq (by omega)), hplace,
    field32_eq (by omega)]
  refine Attempt.of_bind ?_
  intro offset _
  rw [Attempt.lift_bind (add_eq (by omega)), field32_eq (by omega)]
  refine Attempt.of_bind ?_
  intro length _
  rfl

end Fields

/-! ## The block -/

/-- Reads the block at the start of a document stream. -/
def fib (stream : Bytes) : Attempt Fib := do
  if (← u16? stream 0) ≠ some Fib.signature then
    throw (.notOpened .notWord)
  let version ← field16 stream 2
  if version < Fib.firstVersion then
    throw (.oldFormat (.word version))
  let flags ← field16 stream 0x0A
  if flags &&& Fib.encryptedFlag ≠ 0 then
    throw .encrypted
  let tableStream := if flags &&& Fib.tableOneFlag ≠ 0 then TableStream.one else .zero
  let shorts ← field16 stream Fib.arraysOffset
  let shortsOffset ← add Fib.arraysOffset 2
  let longsOffset ← add shortsOffset (← mul shorts.toNat 2)
  let longs ← field16 stream longsOffset
  let firstLong ← add longsOffset 2
  let pairsOffset ← add firstLong (← mul longs.toNat 4)
  let pairs ← field16 stream pairsOffset
  let start ← add pairsOffset 2
  let formattedPages ← pair stream start pairs.toNat Fib.formattedPagesPair
  let drawingGroup ← pair stream start pairs.toNat Fib.drawingGroupPair
  return { tableStream, formattedPages, drawingGroup }

/-- The file information block is read without a trap, whatever its counts say. -/
theorem fib_eq (stream : Bytes) : fib stream = .of (Fib.read stream) := by
  have harrays : Fib.arraysOffset = 32 := rfl
  have hpages : Fib.formattedPagesPair = 12 := rfl
  have hgroup : Fib.drawingGroupPair = 50 := rfl
  unfold fib Fib.read
  rw [Attempt.lift_bind (u16?_eq (.inl (by decide)))]
  refine Attempt.ite_of (fun _ => rfl) fun _ => ?_
  rw [field16_eq (by decide)]
  refine Attempt.of_bind ?_
  intro version _
  refine Attempt.ite_of (fun _ => rfl) fun _ => ?_
  rw [field16_eq (by decide)]
  refine Attempt.of_bind ?_
  intro flags _
  refine Attempt.ite_of (fun _ => rfl) fun _ => ?_
  rw [field16_eq (by decide)]
  -- Each array begins where the one in front of it ends; the counts are words of 16 bits.
  refine Attempt.of_bind ?_
  intro shorts _
  have hshorts : shorts.toNat < 2 ^ 16 := shorts.toNat_lt
  rw [Attempt.lift_bind (add_eq (by omega)), Attempt.lift_bind (mul_eq (by omega)),
    Attempt.lift_bind (add_eq (by omega)), Nat.mul_comm shorts.toNat 2, field16_eq (by omega)]
  refine Attempt.of_bind ?_
  intro longs _
  have hlongs : longs.toNat < 2 ^ 16 := longs.toNat_lt
  rw [Attempt.lift_bind (add_eq (by omega)), Attempt.lift_bind (mul_eq (by omega)),
    Attempt.lift_bind (add_eq (by omega)), Nat.mul_comm longs.toNat 4, field16_eq (by omega)]
  refine Attempt.of_bind ?_
  intro pairs _
  rw [Attempt.lift_bind (add_eq (by omega)), pair_eq (by omega)]
  refine Attempt.of_bind ?_
  intro formattedPages _
  rw [pair_eq (by omega)]
  refine Attempt.of_bind ?_
  intro drawingGroup _
  rfl

end Machine
end OfficePictures
