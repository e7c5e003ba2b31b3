import OfficePictures.Art.Record

/-!
# RecordLayout — complete records and the walk over them

The writer's side of art records.  A complete record declares the length of the body it has; its
bytes can stand in front of anything else, or anywhere in a stream.

* `CompleteRecord.read_bytes_append` — a complete record in front of anything else is read back;
* `CompleteRecord.LiesAt.readAt` — a complete record is read where it lies;
* `Record.scan_bytes_append`, `Record.scan_of_short` — one step of a walk, and its end.
-/

namespace OfficePictures
namespace Art

/-! ## Complete records -/

/-- A record that declares the length of its body.  The rest of its header is free. -/
structure CompleteRecord where
  version : Fin 16
  instanceId : Fin 4096
  recType : UInt16
  body : Bytes
  body_lt : body.length < UInt32.size

namespace CompleteRecord

def header (record : CompleteRecord) : Header :=
  ⟨record.version, record.instanceId, record.recType, UInt32.ofNat record.body.length⟩

def bytes (record : CompleteRecord) : Bytes :=
  record.header.encode ++ record.body

/-- The record in a stream, where it begins at `offset`. -/
def placed (record : CompleteRecord) (offset : Nat) : Record :=
  ⟨record.header, offset, record.body⟩

@[simp] theorem length_bytes (record : CompleteRecord) :
    record.bytes.length = Header.size + record.body.length := by
  simp [bytes]

@[simp] theorem size_placed (record : CompleteRecord) (offset : Nat) :
    (record.placed offset).size = record.bytes.length := by
  simp [Record.size, placed]

theorem length_header (record : CompleteRecord) :
    record.header.length.toNat = record.body.length :=
  UInt32.toNat_ofNat_of_lt' record.body_lt

theorem read_bytes_append (record : CompleteRecord) (rest : Bytes) (offset : Nat) :
    Record.read (record.bytes ++ rest) offset = .ok (record.placed offset) :=
  Record.read_encode_append (record.placed offset) rest record.length_header

def LiesAt (record : CompleteRecord) (data : Bytes) (position : Nat) : Prop :=
  ∃ front rest, data = front ++ (record.bytes ++ rest) ∧ front.length = position

theorem LiesAt.position_lt {record : CompleteRecord} {data : Bytes} {position : Nat}
    (h : record.LiesAt data position) : position < data.length := by
  rcases h with ⟨front, rest, rfl, rfl⟩
  -- Not even an empty body makes a record empty.
  have hpos : 0 < record.bytes.length := by
    rw [length_bytes]
    exact Nat.add_pos_left (by decide) _
  rw [List.length_append, List.length_append]
  omega

theorem LiesAt.readAt {record : CompleteRecord} {data : Bytes} {position : Nat}
    (h : record.LiesAt data position) (base : Nat) :
    Record.readAt data position base = .ok (record.placed (base + position)) := by
  rcases h with ⟨front, rest, rfl, rfl⟩
  rw [Record.readAt, List.drop_left, read_bytes_append]

end CompleteRecord

/-! ## Walking over what was laid out -/

/-- Fewer bytes than a header has are no record. -/
theorem Record.scan_of_short {padding : Bytes} (h : padding.length < Header.size) (offset : Nat) :
    Record.scan padding offset = .done := by
  have hshort : (padding.take Header.size).length < Header.size := by
    rw [List.length_take]
    omega
  rw [Record.scan, if_pos hshort]

theorem Record.scan_bytes_append (record : CompleteRecord) (rest : Bytes) (offset : Nat) :
    Record.scan (record.bytes ++ rest) offset =
      .cons (record.placed offset) (Record.scan rest (offset + record.bytes.length)) := by
  have hlong : ¬ ((record.bytes ++ rest).take Header.size).length < Header.size := by
    rw [List.length_take, List.length_append, CompleteRecord.length_bytes]
    omega
  rw [Record.scan, if_neg hlong, CompleteRecord.read_bytes_append]
  simp only [CompleteRecord.size_placed, List.drop_left]

end Art
end OfficePictures
