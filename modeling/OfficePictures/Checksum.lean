import OfficePictures.Bytes

/-!
# Checksum — CRC-32 and Adler-32

The two checksums that guard compressed data: the cyclic redundancy check of archive entries and the
sum at the end of a zlib stream.
-/

namespace OfficePictures
namespace Checksum

/-- One bit of the reflected division by the CRC-32 polynomial. -/
def crcBit (r : UInt32) : UInt32 :=
  if r &&& 1 = 1 then (r >>> 1) ^^^ 0xEDB88320 else r >>> 1

def crcByte (r : UInt32) (b : UInt8) : UInt32 :=
  let r := r ^^^ b.toUInt32
  crcBit (crcBit (crcBit (crcBit (crcBit (crcBit (crcBit (crcBit r)))))))

/-- The CRC-32 of a byte string. -/
def crc32 (bytes : Bytes) : UInt32 :=
  bytes.foldl crcByte 0xFFFFFFFF ^^^ 0xFFFFFFFF

/-- The two sums of Adler-32 after one more byte; both are kept below 65521. -/
def adlerByte (sums : Nat × Nat) (b : UInt8) : Nat × Nat :=
  let low := (sums.1 + b.toNat) % 65521
  (low, (sums.2 + low) % 65521)

/-- The Adler-32 of a byte string. -/
def adler32 (bytes : Bytes) : Nat :=
  let sums := bytes.foldl adlerByte (1, 0)
  sums.2 * 65536 + sums.1

end Checksum
end OfficePictures
