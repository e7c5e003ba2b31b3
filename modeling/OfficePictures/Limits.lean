import OfficePictures.Fault

/-!
# Limits — how much of a document is read

Two limits guard against documents that declare or expand to huge pictures and streams.
-/

namespace OfficePictures

/-- The greatest number of bytes of a picture, and of a stream of a compound file. -/
structure Limits where
  maxPictureBytes : Nat
  maxStreamBytes : Nat
  deriving DecidableEq, Repr

/-- Refuses a picture of `length` bytes that is over the limit. -/
def Limits.check (limits : Limits) (length : Nat) : Except Fault Unit :=
  if limits.maxPictureBytes < length then .error (.tooLarge limits.maxPictureBytes) else .ok ()

end OfficePictures
