import OfficePictures.Checksum
import OfficePictures.Text.Utf8

/-!
# ExtraField — additions to a directory header

A directory header tells what an archive knows of an entry; extra fields behind it add to that:
wider sizes, other clocks, the name in another encoding, a stronger encryption.
`Header.withExtraFields?` refuses an archive whose extra fields contradict themselves.  Fields that
end early are left, and those of unknown kinds are passed over.
-/

namespace OfficePictures
namespace Archive

/-- What the directory tells of an entry. -/
structure Header where
  name : Bytes
  /-- Whether the name is written in UTF-8. -/
  isUnicode : Bool
  /-- The comment, in UTF-8. -/
  comment : Bytes
  isEncrypted : Bool
  /-- Whether the entry declares a stronger encryption than the usual one. -/
  isSealed : Bool
  method : Nat
  date : Nat
  time : Nat
  checksum : UInt32
  length : Nat
  storedLength : Nat
  offset : Nat
  deriving DecidableEq, Repr

/-- What becomes of a header after one more extra field. -/
inductive FieldReading
  /-- The field is read, and its bytes are done with. -/
  | done (header : Header)
  /-- The field ends early. -/
  | cutOff (header : Header)
  /-- The field contradicts itself. -/
  | contradiction
  deriving DecidableEq, Repr

namespace Header

/-! ## Kinds of fields -/

/-- The header after a field of `length` bytes, if `body` holds them. -/
def leave (header : Header) (length : Nat) (body : Bytes) : FieldReading :=
  if body.length < length then .cutOff header else .done header

/-- The value of a narrow size that a wide one replaces. -/
def narrowLimit : Nat := 0xFFFFFFFF

/-- The next wide number if one is wanted, or else the old value. -/
def wide? (wanted : Bool) (old : Nat) (rest : Bytes) : Option (Nat × Bytes) :=
  if wanted then (Bytes.natAt? rest 0 8).map (·, rest.drop 8) else some (old, rest)

/-- Wide sizes and the wide offset: those whose narrow form is at its limit, or all three. -/
def wideField (header : Header) (length : Nat) (body : Bytes) : FieldReading :=
  let isWanted (old : Nat) : Bool := 24 ≤ length || old = narrowLimit
  match wide? (isWanted header.length) header.length body with
  | none => .cutOff header
  | some (contentLength, afterLength) =>
  let first := { header with length := contentLength }
  match wide? (isWanted header.storedLength) header.storedLength afterLength with
  | none => .cutOff first
  | some (storedLength, afterStored) =>
  let second := { first with storedLength }
  match wide? (isWanted header.offset) header.offset afterStored with
  | none => .cutOff second
  | some (offset, afterOffset) =>
      -- The wanted numbers must not take more bytes than the field has.
      if length < body.length - afterOffset.length then .contradiction
      else leave { second with offset } length body

def bitCount (flags : Nat) : Nat :=
  (List.range 8).countP flags.testBit

/-- A clock in seconds since 1970: flags tell which of three times there are. -/
def clockField (header : Header) (length : Nat) (body : Bytes) : FieldReading :=
  match Bytes.natAt? body 0 1 with
  | none => .cutOff header
  | some flags =>
      if length ≠ 5 ∧ length ≠ 1 + 4 * bitCount flags ∨ 8 ≤ flags then .contradiction
      else leave header length body

def preciseClockField (header : Header) (length : Nat) (body : Bytes) : FieldReading :=
  if length ≠ 32 then
    .contradiction
  else
    match Bytes.natAt? body 4 2, Bytes.natAt? body 6 2 with
    | some tag, some size =>
        if tag ≠ 1 ∨ size ≠ 24 then .contradiction else leave header length body
    | some tag, none =>
        if tag ≠ 1 then .contradiction else .cutOff header
    | none, _ => .cutOff header

/-- Text in UTF-8, behind the checksum of the text that it replaces. -/
def textField (header : Header) (replaced : Bytes) (replace : Bytes → Header) (length : Nat)
    (body : Bytes) : FieldReading :=
  match Bytes.u32? body 1 with
  | none => .cutOff header
  | some checksum =>
      let replacement := (body.drop 5).take (length - 5)
      if length < 5 then .contradiction
      else if body.length < length then .cutOff header
      else if checksum ≠ Checksum.crc32 replaced then .contradiction
      else if (Text.Utf8.decodeStrict? replacement).isNone then .contradiction
      else .done (replace replacement)

def sealField (header : Header) (length : Nat) (body : Bytes) : FieldReading :=
  if length ≠ 7 then
    .contradiction
  else
    match Bytes.slice? body 0 7 with
    | none => .cutOff header
    | some field =>
        let version := Bytes.toNat (field.take 2)
        let vendor := Bytes.toNat ((field.drop 2).take 2)
        let strength := Bytes.toNat ((field.drop 4).take 1)
        if vendor ≠ 0x4541 ∨ version = 0 ∨ 2 < version ∨ strength = 0 ∨ 3 < strength then
          .contradiction
        else
          .done { header with isSealed := true, method := Bytes.toNat (field.drop 5) }

def afterField (header : Header) (kind length : Nat) (body : Bytes) : FieldReading :=
  match kind with
  | 0x0001 => header.wideField length body
  | 0x000A => header.preciseClockField length body
  | 0x5455 => header.clockField length body
  | 0x6375 => header.textField header.comment ({ header with comment := · }) length body
  | 0x7075 =>
      header.textField header.name ({ header with name := ·, isUnicode := true }) length body
  | 0x9901 => header.sealField length body
  | _ => header.leave length body

/-! ## All fields -/

/-- The header after all its extra fields, unless one contradicts itself. -/
def withExtraFields? (header : Header) (extra : Bytes) : Option Header :=
  if _h : extra.length < 4 then
    some header
  else
    let kind := Bytes.toNat (extra.take 2)
    let length := Bytes.toNat ((extra.drop 2).take 2)
    match header.afterField kind length (extra.drop 4) with
    | .contradiction => none
    | .cutOff header => some header
    | .done header => header.withExtraFields? ((extra.drop 4).drop length)
termination_by extra.length
decreasing_by
  simp only [List.length_drop]
  omega

end Header
end Archive
end OfficePictures
