import OfficePictures.Art.BlipStore
import OfficePictures.Compound.File
import OfficePictures.Picture

/-!
# Workbook — the pictures of an Excel workbook

The workbook stream is a sequence of small records.  The drawing group of the workbook is spread
over records of its own type and the continuations that directly follow them; `drawingGroup` puts it
together again.  What follows the first end record is not read.
-/

namespace OfficePictures
namespace Workbook

/-- A record of the workbook stream. -/
structure Record where
  kind : UInt16
  offset : Nat
  body : Bytes
  deriving DecidableEq, Repr

namespace Record

def headerLength : Nat := 4

def bofKind : UInt16 := 0x0809

/-- The type of the record that ends the part of the stream that is read. -/
def eofKind : UInt16 := 0x000A

/-- The type of the record of an encrypted workbook. -/
def filePassKind : UInt16 := 0x002F

def continueKind : UInt16 := 0x003C

/-- The type of a record with a part of the drawing group. -/
def drawingGroupKind : UInt16 := 0x00EB

def encode (record : Record) : Bytes :=
  Bytes.ofU16 record.kind ++ Bytes.ofNat 2 record.body.length ++ record.body

/-- The records of `stream`, which begins at `offset`; fewer than four bytes at the end are
padding. -/
def scan (stream : Bytes) (offset : Nat) : Walk Fault Record :=
  match stream with
  | k₀ :: k₁ :: l₀ :: l₁ :: rest =>
      let kind := UInt16.ofNat (Bytes.toNat [k₀, k₁])
      let length := Bytes.toNat [l₀, l₁]
      let body := rest.take length
      if body.length < length then
        .stopped (.record offset (.workbookRecordTruncated kind))
      else
        .cons ⟨kind, offset, body⟩ (scan (rest.drop length) (offset + headerLength + length))
  | _ => .done
termination_by stream.length
decreasing_by
  simp only [List.length_drop, List.length_cons]
  omega

end Record

def version : UInt16 := 0x0600

/-- The drawing group in the records up to the first end record; `inGroup` tells whether a
continuation belongs to it. -/
def groupBytes (obstacle : Option Fault) : (inGroup : Bool) → List Record → Except Fault Bytes
  | _, [] =>
      match obstacle with
      | some fault => .error fault
      | none => .ok []
  | inGroup, record :: records =>
      if record.kind = Record.filePassKind then
        .error .encrypted
      -- What follows the end is not looked at, not even the obstacle.
      else if record.kind = Record.eofKind then
        .ok []
      else if record.kind = Record.drawingGroupKind ∨
          record.kind = Record.continueKind ∧ inGroup then
        match groupBytes obstacle true records with
        | .error fault => .error fault
        | .ok more => .ok (record.body ++ more)
      else
        groupBytes obstacle false records

def drawingGroup (stream : Bytes) : Except Fault Bytes :=
  let walk := Record.scan stream 0
  match walk.items with
  | [] => .error (walk.obstacle.getD (.notOpened .noBof))
  | first :: records =>
      if first.kind ≠ Record.bofKind then
        .error (.notOpened .noBof)
      else
        let found := (Bytes.u16? first.body 0).getD 0
        if found ≠ version then
          .error (.oldFormat (.workbook found))
        else
          groupBytes walk.obstacle false records

/-- A picture of the workbook, named for its number. -/
def toPicture [Toolkit] (number : Nat) (blip : Art.Blip) : Picture :=
  let extension := blip.kind.suggestExtension blip.data
  { data := blip.data
    kind := blip.kind
    name := some (sequentialName number extension)
    extension := some extension
    modified := none }

def pictures [Toolkit] (content : Bytes) (limits : Limits) : Except Fault (List Picture) := do
  let file ← Compound.File.ofBytes content
  if !file.hasStream "Workbook" && file.hasStream "Book" then
    throw (.oldFormat .excel5)
  let stream ← file.readStream limits "Workbook"
  let group ← drawingGroup stream
  let blips ← Art.blipStorePictures group 0 none limits
  return blips.mapIdx toPicture

end Workbook
end OfficePictures
