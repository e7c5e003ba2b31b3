import OfficePictures.Art.Blip
import OfficePictures.Compound.File
import OfficePictures.Picture

/-!
# Slideshow — the pictures of a PowerPoint presentation

All pictures of a presentation are art records of one stream.  Records of other types, and pictures
of the kinds that a presentation does not show, are passed over without a look at their bodies.
-/

namespace OfficePictures
namespace Slideshow

/-- The extension of the kinds of pictures that are listed. -/
def listedExtension? (kind : PictureKind) : Option String :=
  match kind with
  | .jpeg | .png | .wmf | .emf | .pict => kind.extension?
  | .dib | .tiff | .unknown => none

/-- The pictures of the records, numbered from `number` on; `obstacle` is what comes after them. -/
def recordPictures (limits : Limits) (obstacle : Option Fault) :
    (number : Nat) → List Art.Record → Except Fault (List Picture)
  | _, [] =>
      match obstacle with
      | some fault => .error fault
      | none => .ok []
  | number, record :: records =>
      let kind := PictureKind.ofRecordType record.header.recType
      match listedExtension? kind with
      | none => recordPictures limits obstacle number records
      | some extension =>
          match Art.Blip.decode limits record with
          | .error fault => .error fault
          | .ok blip =>
              match recordPictures limits obstacle (number + 1) records with
              | .error fault => .error fault
              | .ok more =>
                  .ok
                    ({ data := blip.data
                       kind
                       name := some (sequentialName number extension)
                       extension := some extension
                       modified := none } :: more)

def streamPictures (stream : Bytes) (limits : Limits) : Except Fault (List Picture) :=
  let walk := Art.Record.scan stream 0
  recordPictures limits walk.obstacle 0 walk.items

/-- Where the stream of the current user tells whether the presentation is encrypted. -/
def tokenOffset : Nat := 12

def encryptedToken : UInt32 := 0xF3D1C4DF

def pictures (content : Bytes) (limits : Limits) : Except Fault (List Picture) := do
  let file ← Compound.File.ofBytes content
  if !file.hasStream "PowerPoint Document" then
    if file.hasStream "Header" then
      throw (.oldFormat .powerPoint95)
    throw (.notOpened (.streamMissing "PowerPoint Document"))
  if let some user ← file.readStreamIfPresent limits "Current User" then
    if Bytes.u32? user tokenOffset = some encryptedToken then
      throw .encrypted
  match ← file.readStreamIfPresent limits "Pictures" with
  | none => return []
  | some stream => streamPictures stream limits

end Slideshow
end OfficePictures
