import OfficePictures.Archive.DosTime
import OfficePictures.Checksum
import OfficePictures.Deflate.Inflate
import OfficePictures.Fault
import OfficePictures.Toolkit

/-!
# Entry — what an archive holds

An entry has a name, what the directory declares of its content, and the bytes that are stored for
it.  `Entry.read` gives the content within a limit: the declared length is checked first, then the
content itself, and the checksum only of a content that was read to its end.
-/

namespace OfficePictures
namespace Archive

/-! ## Decoders -/

namespace Decoder

/-- The decoder of data that is stored as it is. -/
def plain : Decoder :=
  fun stored _ count => some (stored.take count)

/-- The decoder of deflated data. -/
def deflate : Decoder :=
  fun stored _ count => (Deflate.inflate stored).read? count

/-- The decoder of the compression method with the given number, if it is known. -/
def ofMethod? [Toolkit] (method : Nat) : Option Decoder :=
  if method = 0 then some plain
  else if method = 8 then some deflate
  else Toolkit.decoder? method

end Decoder

/-! ## Entries -/

/-- An entry of an archive. -/
structure Entry where
  name : List Char
  isEncrypted : Bool
  /-- The number of the compression method. -/
  method : Nat
  checksum : UInt32
  /-- The declared length of the content. -/
  length : Nat
  /-- Where the header in front of the stored bytes is. -/
  headerOffset : Nat
  time : Option DosTime
  /-- The bytes stored for the entry, as far as the archive holds them. -/
  stored : Bytes
  deriving DecidableEq, Repr

namespace Entry

/-- The least number of bytes that no memory holds. -/
def memoryBound : Nat := 0x8000000000000000

def isDirectory (entry : Entry) : Bool :=
  entry.name.getLast? = some '/' || entry.name.getLast? = some '\\'

/-- The decoder for the content; encrypted content has none. -/
def decoder? [Toolkit] (entry : Entry) : Option Decoder :=
  if entry.isEncrypted then none else Decoder.ofMethod? entry.method

/-- The content of an entry of at most `limit` bytes. -/
def read [Toolkit] (entry : Entry) (limit : Nat) : Except EntryFault Bytes :=
  match entry.decoder? with
  | none => .error .archive
  | some decode =>
      if limit < entry.length then
        .error (.tooLarge limit)
      else if memoryBound ≤ entry.length then
        .error .unallocatable
      else
        -- The declared length can be too small; one byte more than allowed shows that it is.
        match decode entry.stored entry.length (limit + 1) with
        | none => .error (.damaged entry.headerOffset)
        | some content =>
            if limit < content.length then
              .error (.tooLarge limit)
            else if Checksum.crc32 content = entry.checksum then
              .ok content
            else
              .error (.damaged entry.headerOffset)

end Entry
end Archive
end OfficePictures
