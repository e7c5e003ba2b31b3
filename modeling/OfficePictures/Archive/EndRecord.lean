import OfficePictures.Bytes

/-!
# EndRecord — where the directory of an archive lies

The directory of an archive is found from the end: an end record tells where it begins and how many
entries it has.  Other bytes may stand in front of the archive, so the offsets in it are shifted by
the place where its first directory header is really found.  Archives that are too large for the
fields of an end record have a wide end record as well, with a locator behind it.
-/

namespace OfficePictures
namespace Archive

/-- Where the directory of an archive lies. -/
structure Layout where
  /-- The number of bytes in front of the archive. -/
  shift : Nat
  /-- Where the first directory header is. -/
  start : Nat
  /-- The number of directory headers. -/
  count : Nat
  deriving DecidableEq, Repr

/-! ## Marks -/

/-- The mark of a header in front of the stored bytes of an entry. -/
def localMark : Bytes := [0x50, 0x4B, 0x03, 0x04]

def directoryMark : Bytes := [0x50, 0x4B, 0x01, 0x02]

def endMark : Bytes := [0x50, 0x4B, 0x05, 0x06]

def wideEndMark : Bytes := [0x50, 0x4B, 0x06, 0x06]

def locatorMark : Bytes := [0x50, 0x4B, 0x06, 0x07]

/-- The places of a mark in `data`, the last one first; `found` are those in front of `offset`,
where `data` begins. -/
def placesFrom (mark : Bytes) (offset : Nat) (found : List Nat) : Bytes → List Nat
  | [] => found
  | b :: rest =>
      placesFrom mark (offset + 1) (if mark.isPrefixOf (b :: rest) then offset :: found else found)
        rest

/-- The places of a mark that lie in `[first, bound)`, the first one first. -/
def placesBetween (mark data : Bytes) (first bound : Nat) : List Nat :=
  (placesFrom mark first [] ((data.take bound).drop first)).reverse

/-! ## End records -/

/-- An end record. -/
structure EndRecord where
  offset : Nat
  disk : Nat
  directoryDisk : Nat
  /-- The number of entries on this disk. -/
  countHere : Nat
  /-- The number of entries on all disks. -/
  count : Nat
  directoryOffset : Nat
  deriving DecidableEq, Repr

/-- The end record at an offset, if it and its comment lie within the data. -/
def EndRecord.at? (data : Bytes) (offset : Nat) : Option EndRecord := do
  let record := data.drop offset
  let field := Bytes.natAt? record
  let commentLength ← field 20 2
  guard (22 + commentLength ≤ record.length)
  return {
    offset
    disk := ← field 4 2
    directoryDisk := ← field 6 2
    countHere := ← field 8 2
    count := ← field 10 2
    directoryOffset := ← field 16 4 }

def EndRecord.layout? (data : Bytes) (record : EndRecord) : Option Layout := do
  let shift ←
    -- Without entries there is no header to find, and the directory is where the record begins.
    if record.count = 0 then
      pure (record.offset - record.directoryOffset)
    else
      let first ← (placesBetween directoryMark data record.directoryOffset record.offset).head?
      pure (first - record.directoryOffset)
  guard (record.disk = record.directoryDisk)
  return ⟨shift, record.directoryOffset + shift, record.countHere⟩

/-! ## Wide end records -/

/-- The locator of a wide end record. -/
structure Locator where
  offset : Nat
  directoryDisk : Nat
  recordOffset : Nat
  diskCount : Nat
  deriving DecidableEq, Repr

/-- The locator in front of an end record, if there is one. -/
def EndRecord.locator? (data : Bytes) (record : EndRecord) : Option Locator := do
  guard (20 ≤ record.offset)
  let offset := record.offset - 20
  let locator := data.drop offset
  guard (locatorMark.isPrefixOf locator)
  let field := Bytes.natAt? locator
  return {
    offset
    directoryDisk := ← field 4 4
    recordOffset := ← field 8 8
    diskCount := ← field 16 4 }

/-- The layout that the wide end record at an offset tells, and whether its disks and versions are
consistent; `none` if the record does not go with its locator. -/
def Locator.layoutAt? (data : Bytes) (locator : Locator) (offset : Nat) :
    Option (Layout × Bool) := do
  let record := data.drop offset
  let field := Bytes.natAt? record
  let length ← field 4 8
  let maker ← field 12 2
  let needed ← field 14 2
  let disk ← field 16 4
  let directoryDisk ← field 20 4
  let countHere ← field 24 8
  let count ← field 32 8
  let directoryOffset ← field 48 8
  guard (44 ≤ length && length + 12 = locator.offset - offset)
  guard (directoryDisk = locator.directoryDisk)
  guard (count * 46 + directoryOffset ≤ offset)
  let shift := offset - locator.recordOffset
  return (⟨shift, directoryOffset + shift, count⟩,
    countHere ≤ count && needed ≤ maker && disk = directoryDisk)

/-- The layout that a locator leads to: that of the first wide end record that goes with it. -/
def Locator.layout? (data : Bytes) (locator : Locator) : Option Layout := do
  guard (locator.recordOffset < locator.offset && locator.diskCount ≤ 1)
  let (layout, consistent) ←
    (placesBetween wideEndMark data locator.recordOffset locator.offset).findSome?
      (locator.layoutAt? data)
  if consistent then some layout else none

/-! ## Candidates -/

/-- Whether an end record is at the limit of its fields. -/
def EndRecord.isAtLimit (record : EndRecord) : Bool :=
  record.count = 0xFFFF || record.directoryOffset = 0xFFFFFFFF

/-- The layout that the end record at an offset leads to. -/
def layoutAt? (data : Bytes) (offset : Nat) : Option Layout := do
  let record ← EndRecord.at? data offset
  match if record.isAtLimit then record.locator? data else none with
  | some locator => locator.layout? data
  | none => record.layout? data

/-- The layouts that the end records in the data lead to, that of the last one first. -/
def layouts (data : Bytes) : List Layout :=
  (placesFrom endMark 0 [] data).filterMap (layoutAt? data)

end Archive
end OfficePictures
