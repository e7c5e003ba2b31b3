import OfficePictures.Art.BlipStore

/-!
# InlinePicture — the picture blocks of a data stream

A picture in the text is a block of the data stream: a header of 68 bytes that tells the length of
the block and its form, then the picture.  The forms are a sequence of art records, the same after
the name of a file, and a bare metafile.

What a block yields depends on the bytes of the block and on nothing behind it.
-/

namespace OfficePictures
namespace Word

def blockHeaderLength : Nat := 0x44

def shapeForm : UInt16 := 0x64

/-- The form of a block with the name of a file and art records. -/
def namedShapeForm : UInt16 := 0x66

/-- Where the block at `position` ends, if there is one that lies inside the stream. -/
def blockEnd? (stream : Bytes) (position : Nat) : Option Nat := do
  let length ← Bytes.u32? stream position
  let headerLength ← Bytes.u16? stream (position + 4)
  if headerLength.toNat ≠ blockHeaderLength ∨ length.toNat < blockHeaderLength then
    none
  else
    let blockEnd := position + length.toNat
    if stream.length < blockEnd then none else some blockEnd

/-- The pictures of an art record between the header and the end of a block. -/
def recordPictures (limits : Limits) (record : Art.Record) : Except Fault (List Art.Blip) :=
  if record.header.recType = Art.storeEntryType then
    Art.entryPictures limits none record
  else if record.header.isBlip then
    match Art.Blip.decode limits record with
    | .error fault => .error fault
    | .ok blip => .ok [blip]
  else
    .ok []

/-- The pictures of the art records in `content`, which begins at `offset` of the stream. -/
def shapePictures (limits : Limits) (content : Bytes) (offset : Nat) :
    Except Fault (List Art.Blip) :=
  (Art.Record.scan content offset).gather (recordPictures limits)

/-- The pictures of a block that begins at `position` of the stream. -/
def blockPictures (limits : Limits) (block : Bytes) (position : Nat) :
    Except Fault (List Art.Blip) :=
  let form := (Bytes.u16? block 6).getD 0
  let content := block.drop blockHeaderLength
  let start := position + blockHeaderLength
  if form = namedShapeForm then
    -- The name is a byte for its length and that many bytes.
    let named := min (1 + (content.head?.getD 0).toNat) content.length
    shapePictures limits (content.drop named) (start + named)
  else if form = shapeForm then
    shapePictures limits content start
  else if content = [] then
    .ok []
  else
    match limits.check content.length with
    | .error fault => .error fault
    | .ok () => .ok [{ kind := .wmf, data := content, offset := start }]

/-- The pictures of the block at a location, if there is a block. -/
def locationPictures (stream : Bytes) (limits : Limits) (location : UInt32) :
    Except Fault (List Art.Blip) :=
  let position := location.toNat
  match blockEnd? stream position with
  | none => .ok []
  | some blockEnd =>
      blockPictures limits ((stream.drop position).take (blockEnd - position)) position

/-- The pictures of the blocks at the given locations; a location without a block has none. -/
def inlinePictures (stream : Bytes) (locations : List UInt32) (limits : Limits) :
    Except Fault (List Art.Blip) :=
  Walk.gatherItems (locationPictures stream limits) locations

end Word
end OfficePictures
