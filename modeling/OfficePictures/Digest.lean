import OfficePictures.Digest.Md5
import OfficePictures.Digest.Sha256
import OfficePictures.Text.Digits

/-!
# Digest — the digests of a picture

A picture is identified by two digests, both written in lower-case hexadecimal.
-/

namespace OfficePictures

/-- The two digests of a content, as text. -/
structure ContentDigests where
  md5 : String
  sha256 : String
  deriving DecidableEq, Repr

def ContentDigests.of (content : Bytes) : ContentDigests where
  md5 := Text.hexBytes (Digest.Md5.digest content)
  sha256 := Text.hexBytes (Digest.Sha256.digest content)

end OfficePictures
