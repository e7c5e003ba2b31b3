import OfficePictures.Checksum
import OfficePictures.Deflate.Inflate

/-!
# Zlib — deflate data with a header and a checksum

Two bytes in front tell the method and a check of themselves; the Adler-32 checksum of the output
follows behind, most significant byte first.
-/

namespace OfficePictures
namespace Deflate

/-- Whether two bytes are a header that this decoder accepts: method 8, a window of at most 32 KiB,
no preset dictionary, and a multiple of 31 as a whole. -/
def isZlibHeader (method flags : UInt8) : Bool :=
  (method.toNat * 256 + flags.toNat) % 31 == 0 && method &&& 0x0F == 8 && method >>> 4 ≤ 7 &&
    flags &&& 0x20 == 0

/-- The decompressed form of zlib data; bytes behind the checksum are not looked at. -/
def inflateZlib (data : Bytes) : Inflated :=
  match data with
  | method :: flags :: body =>
      if isZlibHeader method flags then
        match blocks ByteArray.empty (BitSource.ofBytes body) with
        | (output, .error failure) => ⟨output, some failure⟩
        | (output, .ok ⟨rest, _⟩) =>
            let checksum := rest.bytes.take 4
            if checksum.length < 4 then
              ⟨output, some .cutOff⟩
            else if Bytes.toNat checksum.reverse ≠ Checksum.adler32 output.data.toList then
              ⟨output, some .damaged⟩
            else
              ⟨output, none⟩
      else
        ⟨ByteArray.empty, some .damaged⟩
  | _ => ⟨ByteArray.empty, some .cutOff⟩

end Deflate
end OfficePictures
