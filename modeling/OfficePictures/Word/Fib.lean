import OfficePictures.Bytes
import OfficePictures.Fault

/-!
# Fib — the file information block of a Word document

The block is a fixed part of 32 bytes followed by three arrays, each after its own count: 16-bit
values, 32-bit values, and pairs of an offset and a length.  The pairs tell where the parts of the
document lie in its table stream; a pair of length zero, or one beyond the count, says that there is
no such part.
-/

namespace OfficePictures
namespace Word

/-- A part of the table stream. -/
structure TableRange where
  offset : Nat
  length : Nat
  deriving DecidableEq, Repr

/-- The bytes of the part, if the stream holds them all. -/
def TableRange.slice? (range : TableRange) (table : Bytes) : Option Bytes :=
  Bytes.slice? table range.offset range.length

/-- The two streams of which one is the table stream. -/
inductive TableStream
  | zero
  | one
  deriving DecidableEq, Repr

def TableStream.name : TableStream → String
  | zero => "0Table"
  | one => "1Table"

/-- What the file information block tells. -/
structure Fib where
  tableStream : TableStream
  /-- The table of the pages that hold the character properties. -/
  formattedPages : Option TableRange
  drawingGroup : Option TableRange
  deriving DecidableEq, Repr

namespace Fib

/-- The signature of the stream of a Word document. -/
def signature : UInt16 := 0xA5EC

def firstVersion : UInt16 := 106

def encryptedFlag : UInt16 := 0x0100

/-- The flag of a document whose table stream is `1Table`. -/
def tableOneFlag : UInt16 := 0x0200

def arraysOffset : Nat := 32

/-- The number of the pair for the pages of character properties. -/
def formattedPagesPair : Nat := 12

def drawingGroupPair : Nat := 50

def field16 (stream : Bytes) (offset : Nat) : Except Fault UInt16 :=
  match Bytes.u16? stream offset with
  | some value => .ok value
  | none => .error (.notOpened .fibTruncated)

def field32 (stream : Bytes) (offset : Nat) : Except Fault UInt32 :=
  match Bytes.u32? stream offset with
  | some value => .ok value
  | none => .error (.notOpened .fibTruncated)

/-- The part that a pair tells, of `count` pairs that begin at `start`. -/
def pair (stream : Bytes) (start count index : Nat) : Except Fault (Option TableRange) :=
  if count ≤ index then
    .ok none
  else do
    let offset ← field32 stream (start + 8 * index)
    let length ← field32 stream (start + 8 * index + 4)
    return if length = 0 then none else some ⟨offset.toNat, length.toNat⟩

/-- Reads the block at the start of a document stream. -/
def read (stream : Bytes) : Except Fault Fib := do
  if Bytes.u16? stream 0 ≠ some signature then
    throw (.notOpened .notWord)
  let version ← field16 stream 2
  if version < firstVersion then
    throw (.oldFormat (.word version))
  let flags ← field16 stream 0x0A
  if flags &&& encryptedFlag ≠ 0 then
    throw .encrypted
  let tableStream := if flags &&& tableOneFlag ≠ 0 then TableStream.one else .zero
  let shorts ← field16 stream arraysOffset
  let longsOffset := arraysOffset + 2 + 2 * shorts.toNat
  let longs ← field16 stream longsOffset
  let pairsOffset := longsOffset + 2 + 4 * longs.toNat
  let pairs ← field16 stream pairsOffset
  let formattedPages ← pair stream (pairsOffset + 2) pairs.toNat formattedPagesPair
  let drawingGroup ← pair stream (pairsOffset + 2) pairs.toNat drawingGroupPair
  return { tableStream, formattedPages, drawingGroup }

end Fib
end Word
end OfficePictures
