import OfficePictures.Archive.EndRecord
import OfficePictures.Archive.Entry
import OfficePictures.Archive.ExtraField
import OfficePictures.Text.CodePage437

/-!
# Directory — the entries of an archive

Each directory header leads to a local header, behind which the stored bytes of the entry begin.
`entries?` reads the directory of the last end record whose directory is sound.  Of several entries
with one name the content of the last counts, at the place of the first.
-/

namespace OfficePictures
namespace Archive

/-! ## Directory headers -/

def nameText (isUnicode : Bool) (name : Bytes) : List Char :=
  if isUnicode then Text.Utf8.decode name else Text.CodePage437.decode name

/-- The directory header at the start of `data`, with offsets moved by `shift`, and what follows. -/
def Header.read? (shift : Nat) (data : Bytes) : Option (Header × Bytes) := do
  guard (directoryMark.isPrefixOf data)
  let field := Bytes.natAt? data
  let flags ← field 8 2
  let nameLength ← field 28 2
  let extraLength ← field 30 2
  let commentLength ← field 32 2
  let isUnicode := flags / 2048 % 2 = 1
  let comment ← Bytes.slice? data (46 + nameLength + extraLength) commentLength
  let header : Header := {
    name := ← Bytes.slice? data 46 nameLength
    isUnicode
    comment := Text.Utf8.encode (nameText isUnicode comment)
    isEncrypted := flags % 2 = 1
    isSealed := false
    method := ← field 10 2
    date := ← field 14 2
    time := ← field 12 2
    checksum := ← Bytes.u32? data 16
    length := ← field 24 4
    storedLength := ← field 20 4
    offset := ← field 42 4 }
  let header ← header.withExtraFields? (← Bytes.slice? data (46 + nameLength) extraLength)
  -- Method 99 only says that the real method stands in an extra field.
  guard (header.method ≠ 99 || header.isSealed)
  return ({ header with offset := header.offset + shift },
    data.drop (46 + nameLength + extraLength + commentLength))

/-! ## Stored bytes -/

/-- What is behind the local header at `offset`, and where that is. -/
def contentAt? (data : Bytes) (offset : Nat) : Option (Nat × Bytes) := do
  let found := data.drop offset
  guard (localMark.isPrefixOf found)
  let nameLength ← Bytes.natAt? found 26 2
  let extraLength ← Bytes.natAt? found 28 2
  let length := 30 + nameLength + extraLength
  return (offset + length, found.drop length)

/-- The entry of a directory header; its local header and the start of its stored bytes lie in front
of the directory. -/
def entry? (data : Bytes) (layout : Layout) (header : Header) : Option Entry := do
  guard (header.offset < layout.start)
  let (start, content) ← contentAt? data header.offset
  guard (start ≤ layout.start)
  return {
    name := nameText header.isUnicode header.name
    isEncrypted := header.isEncrypted || header.isSealed
    method := header.method
    checksum := header.checksum
    length := header.length
    headerOffset := header.offset
    time := DosTime.ofWords? header.date header.time
    stored := content.take header.storedLength }

/-- The next `count` entries of a directory. -/
def entriesFrom? (data : Bytes) (layout : Layout) : (count : Nat) → (directory : Bytes) →
    Option (List Entry)
  | 0, _ => some []
  | count + 1, directory => do
      let (header, rest) ← Header.read? layout.shift directory
      let entry ← entry? data layout header
      let entries ← entriesFrom? data layout count rest
      return entry :: entries

/-! ## Names -/

/-- The entries with one more, which takes the place of an entry of its name. -/
def insert (entries : List Entry) (entry : Entry) : List Entry :=
  if entries.any (·.name = entry.name) then
    entries.map fun other => if other.name = entry.name then entry else other
  else
    entries ++ [entry]

/-- The entries of an archive, in the order of its directory. -/
def entries? (data : Bytes) : Option (List Entry) :=
  (layouts data).findSome? fun layout =>
    (entriesFrom? data layout layout.count (data.drop layout.start)).map (·.foldl insert [])

end Archive
end OfficePictures
