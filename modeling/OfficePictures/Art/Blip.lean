import OfficePictures.Art.Record
import OfficePictures.Deflate.Zlib
import OfficePictures.PictureKind

/-!
# Blip — the picture in an art record

In front of the picture stand one or two identifiers of 16 bytes.  A bitmap follows after one more
byte, as it is.  A metafile follows after a header of 34 bytes, compressed or not, and lacks what a
file of its kind begins with; `decode` adds it.
-/

namespace OfficePictures
namespace Art

/-- A decoded picture, and where its stored bytes begin in their stream. -/
structure Blip where
  kind : PictureKind
  data : Bytes
  offset : Nat
  deriving DecidableEq, Repr

/-! ## Identifiers -/

/-- The instance of records of this type that have one identifier, for the types that tell. -/
def singleIdInstance? (recType : UInt16) : Option Nat :=
  if recType = 0xF01A then some 0x3D4
  else if recType = 0xF01B then some 0x216
  else if recType = 0xF01C then some 0x542
  else if recType = 0xF01D then some 0x46A
  else if recType = 0xF02A then some 0x6E2
  else if recType = 0xF01E then some 0x6E0
  else if recType = 0xF01F then some 0x7A8
  else if recType = 0xF029 then some 0x6E4
  else none

/-- The number of identifiers in front of the picture: two if the instance is one more than for
one identifier, or, for other types, odd. -/
def Header.idCount (header : Header) : Nat :=
  match singleIdInstance? header.recType with
  | some single => if header.instanceId.val = single + 1 then 2 else 1
  | none => 1 + header.instanceId.val % 2

def Header.idsLength (header : Header) : Nat :=
  16 * header.idCount

/-! ## Metafiles -/

/-- The number of bytes of the header in front of a metafile. -/
def metafileHeaderLength : Nat := 34

/-- The key that a placeable metafile begins with. -/
def placeableKey : UInt32 := 0x9AC6CDD7

/-- The words of a placeable header in front of its checksum: the key, a handle, the four bounds of
the metafile header cut to 16 bits, the units per inch, and two reserved words. -/
def placeableWords (metafileHeader : Bytes) : List UInt16 :=
  let bound (offset : Nat) : UInt16 := ((Bytes.u32? metafileHeader offset).getD 0).toUInt16
  [0xCDD7, 0x9AC6, 0, bound 4, bound 8, bound 12, bound 16, 72, 0, 0]

/-- The header of a placeable metafile, closed by a checksum that makes the exclusive or of all its
words zero. -/
def placeableHeader (metafileHeader : Bytes) : Bytes :=
  let words := placeableWords metafileHeader
  (words ++ [words.foldl (· ^^^ ·) 0]).flatMap Bytes.ofU16

/-- The bytes that a file of the given kind has in front of its stored bytes. -/
def filePreamble (kind : PictureKind) (metafileHeader payload : Bytes) : Bytes :=
  match kind with
  | .wmf =>
      if Bytes.u32? payload 0 = some placeableKey then [] else placeableHeader metafileHeader
  | .pict => List.replicate 512 0
  | _ => []

/-- The decompressed form of a metafile within the limit. -/
def inflateWithin (limits : Limits) (payload : Bytes) : Except Fault Bytes :=
  match (Deflate.inflateZlib payload).read? (limits.maxPictureBytes + 1) with
  | none => .error .io
  | some data =>
      match limits.check data.length with
      | .error fault => .error fault
      | .ok () => .ok data

/-- The stored bytes of a metafile, decompressed if its header says so. -/
def metafilePayload (limits : Limits) (offset : Nat) (metafileHeader payload : Bytes) :
    Except Fault Bytes :=
  if metafileHeader[32]? = some 0 then
    match inflateWithin limits payload with
    | .error (.tooLarge limit) => .error (.tooLarge limit)
    | .error _ => .error (.record offset .undecodable)
    | .ok data => .ok data
  else
    match limits.check payload.length with
    | .error fault => .error fault
    | .ok () => .ok payload

/-! ## Decoding -/

namespace Blip

def decodeMetafile (limits : Limits) (record : Record) (kind : PictureKind) :
    Except Fault Blip :=
  let rest := record.body.drop record.header.idsLength
  let metafileHeader := rest.take metafileHeaderLength
  if metafileHeader.length < metafileHeaderLength then
    .error (.record record.offset .metafileHeaderTruncated)
  else
    match metafilePayload limits record.offset metafileHeader (rest.drop metafileHeaderLength) with
    | .error fault => .error fault
    | .ok payload =>
        .ok
          { kind
            data := filePreamble kind metafileHeader payload ++ payload
            offset := record.bodyOffset + record.header.idsLength + metafileHeaderLength }

/-- The bitmap, or the picture of unknown kind, in a record. -/
def decodeBitmap (limits : Limits) (record : Record) (kind : PictureKind) : Except Fault Blip :=
  let headerLength := record.header.idsLength + 1
  if record.body.length < headerLength then
    .error (.record record.offset .bitmapWithoutData)
  else
    let data := record.body.drop headerLength
    match limits.check data.length with
    | .error fault => .error fault
    | .ok () => .ok { kind, data, offset := record.bodyOffset + headerLength }

def decode (limits : Limits) (record : Record) : Except Fault Blip :=
  let kind := PictureKind.ofRecordType record.header.recType
  if kind.isMetafile then decodeMetafile limits record kind else decodeBitmap limits record kind

end Blip
end Art
end OfficePictures
