import OfficePictures.Bytes
import OfficePictures.Limits
import OfficePictures.Walk

/-!
# Record — art records and streams of them

Drawings are stored as art records: a header of eight bytes, then as many bytes as it declares.  The
body of a record can be a sequence of records itself.

* `Record.read` / `Record.readAt` — one record;
* `Record.scan` — a sequence of records; fewer than eight bytes at its end are padding;
* `Record.encode` — the writer that `read` undoes (`read_encode_append`).

Offsets count from the start of the outermost stream: `scan data offset` is for bytes that begin
there at `offset`.
-/

namespace OfficePictures
namespace Art

/-- The header of a record: version and instance share the first two bytes. -/
structure Header where
  version : Fin 16
  instanceId : Fin 4096
  recType : UInt16
  length : UInt32
  deriving DecidableEq, Repr

/-- A record in its stream: its header, where it begins, and its body. -/
structure Record where
  header : Header
  offset : Nat
  body : Bytes
  deriving DecidableEq, Repr

/-! ## Headers -/

namespace Header

def size : Nat := 8

/-- The header that begins at `position`. -/
def read? (data : Bytes) (position : Nat) : Option Header := do
  let first ← Bytes.u16? data position
  let recType ← Bytes.u16? data (position + 2)
  let length ← Bytes.u32? data (position + 4)
  return ⟨Fin.ofNat 16 first.toNat, Fin.ofNat 4096 (first.toNat / 16), recType, length⟩

def encode (header : Header) : Bytes :=
  Bytes.ofNat 2 (header.version.val + 16 * header.instanceId.val) ++
    Bytes.ofU16 header.recType ++ Bytes.ofU32 header.length

def isBlip (header : Header) : Bool :=
  0xF018 ≤ header.recType && header.recType ≤ 0xF117

@[simp] theorem length_encode (header : Header) : header.encode.length = size := by
  simp [encode, size]

/-- A header that was written in front of anything else is read back. -/
theorem read?_encode_append (header : Header) (rest : Bytes) :
    read? (header.encode ++ rest) 0 = some header := by
  have hversion := header.version.isLt
  have hinstance := header.instanceId.isLt
  have hfirst : header.version.val + 16 * header.instanceId.val < Bytes.bound 2 := by
    simp only [Bytes.bound]
    omega
  -- One field after the other, each behind those in front of it.
  have h0 : Bytes.u16? (header.encode ++ rest) 0 =
      some (UInt16.ofNat (header.version.val + 16 * header.instanceId.val)) := by
    rw [encode, List.append_assoc, List.append_assoc, Bytes.u16?, Bytes.natAt?_ofNat_append,
      Nat.mod_eq_of_lt hfirst, Option.map_some]
  have h2 : Bytes.u16? (header.encode ++ rest) 2 = some header.recType := by
    have := Bytes.u16?_append
      (Bytes.ofNat 2 (header.version.val + 16 * header.instanceId.val))
      (Bytes.ofU16 header.recType ++ (Bytes.ofU32 header.length ++ rest)) 0
    rw [Bytes.u16?_ofU16_append, Bytes.length_ofNat] at this
    simpa only [encode, List.append_assoc] using this
  have h4 : Bytes.u32? (header.encode ++ rest) 4 = some header.length := by
    have := Bytes.u32?_append
      (Bytes.ofNat 2 (header.version.val + 16 * header.instanceId.val) ++
        Bytes.ofU16 header.recType)
      (Bytes.ofU32 header.length ++ rest) 0
    rw [Bytes.u32?_ofU32_append, List.length_append, Bytes.length_ofNat, Bytes.length_ofU16] at this
    simpa only [encode, List.append_assoc] using this
  have hlast : (UInt16.ofNat (header.version.val + 16 * header.instanceId.val)).toNat =
      header.version.val + 16 * header.instanceId.val := by
    rw [UInt16.toNat_ofNat', Nat.mod_eq_of_lt (by omega)]
  simp only [read?, h0, h2, h4, hlast, Option.bind_eq_bind, Option.bind_some, Nat.zero_add,
    Option.pure_def, Option.some.injEq]
  rw [show header = ⟨header.version, header.instanceId, header.recType, header.length⟩ from rfl]
  -- The first field has the version as its last hexadecimal digit, in front of it the instance.
  congr 1
  · apply Fin.ext
    simp only [Fin.ofNat]
    omega
  · apply Fin.ext
    simp only [Fin.ofNat]
    omega

end Header

/-! ## Records -/

namespace Record

/-- The record at the start of `data`, which begins at `offset` of its stream. -/
def read (data : Bytes) (offset : Nat) : Except Fault Record :=
  match Header.read? data 0 with
  | none => .error (.record offset .headerTruncated)
  | some header =>
      let rest := data.drop Header.size
      let body := rest.take header.length.toNat
      if body.length < header.length.toNat then
        .error (.record offset (.overrun header.recType header.length.toNat rest.length))
      else
        .ok ⟨header, offset, body⟩

/-- The record at `position` of `data`, which begins at `base` of its stream. -/
def readAt (data : Bytes) (position base : Nat) : Except Fault Record :=
  read (data.drop position) (base + position)

def bodyOffset (record : Record) : Nat :=
  record.offset + Header.size

/-- The number of bytes of the record, its header included. -/
def size (record : Record) : Nat :=
  Header.size + record.body.length

def encode (record : Record) : Bytes :=
  record.header.encode ++ record.body

/-- A record that was written in front of anything else is read back. -/
theorem read_encode_append (record : Record) (rest : Bytes)
    (hlength : record.header.length.toNat = record.body.length) :
    read (record.encode ++ rest) record.offset = .ok record := by
  have hheader : Header.read? (record.encode ++ rest) 0 = some record.header := by
    rw [encode, List.append_assoc, Header.read?_encode_append]
  have hdrop : (record.encode ++ rest).drop Header.size = record.body ++ rest := by
    rw [encode, List.append_assoc, ← Header.length_encode record.header, List.drop_left]
  simp [read, hheader, hdrop, hlength]

/-- The records of `data`, which begins at `offset` of its stream. -/
def scan (data : Bytes) (offset : Nat) : Walk Fault Record :=
  -- Counting no more than a header keeps the walk linear.
  if (data.take Header.size).length < Header.size then
    .done
  else
    match read data offset with
    | .error fault => .stopped fault
    | .ok record => .cons record (scan (data.drop record.size) (offset + record.size))
termination_by data.length
decreasing_by
  simp only [List.length_take, Header.size, List.length_drop, Record.size] at *
  omega

def children (record : Record) : Walk Fault Record :=
  scan record.body record.bodyOffset

end Record
end Art
end OfficePictures
