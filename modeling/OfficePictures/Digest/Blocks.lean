import OfficePictures.Bytes

/-!
# Blocks — padded messages of 64-byte blocks

Both digests work on blocks of 64 bytes.  A message is followed by the byte `0x80`, by as many zeros
as are needed, and by its length in bits, in eight bytes whose order the digest chooses.
-/

namespace OfficePictures
namespace Digest

def blockLength : Nat := 64

/-- The bytes between a message of `length` bytes and the field of its length. -/
def filling (length : Nat) : Bytes :=
  0x80 :: List.replicate ((119 - length % 64) % 64) 0

/-- The message filled up to whole blocks; `field` writes the length in bits. -/
def pad (field : Nat → Bytes) (message : Bytes) : Bytes :=
  let length := message.length
  message ++ filling length ++ field (8 * length)

/-- The message cut into pieces of one block each, the last one possibly shorter. -/
def blocks (message : Bytes) : List Bytes :=
  match message with
  | [] => []
  | b :: rest => (b :: rest).take blockLength :: blocks (rest.drop (blockLength - 1))
termination_by message.length
decreasing_by
  simp only [List.length_cons, List.length_drop]
  omega

/-- The words of four bytes of a block; `word` reads one of them. -/
def words (word : Bytes → UInt32) (block : Bytes) : Array UInt32 :=
  match block with
  | [] => #[]
  | b :: rest => #[word ((b :: rest).take 4)] ++ words word (rest.drop 3)
termination_by block.length
decreasing_by
  simp only [List.length_cons, List.length_drop]
  omega

/-- The word rotated to the left by `count` bits, for `count` from 1 to 31. -/
def rotateLeft (word : UInt32) (count : UInt32) : UInt32 :=
  (word <<< count) ||| (word >>> (32 - count))

/-- The word rotated to the right by `count` bits, for `count` from 1 to 31. -/
def rotateRight (word : UInt32) (count : UInt32) : UInt32 :=
  (word >>> count) ||| (word <<< (32 - count))

end Digest
end OfficePictures
