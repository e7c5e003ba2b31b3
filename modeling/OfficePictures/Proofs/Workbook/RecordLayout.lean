import OfficePictures.Proofs.Bytes
import OfficePictures.Workbook

/-!
# RecordLayout — the records of a workbook stream

The writer's side of the records of a workbook.  Every stream is a list of complete records with a
tail that holds no further one: it is too short for a header, or a record in it is cut off.

* `scan_records_append` — a walk over complete records yields them and goes on behind them;
* `scan_of_short`, `IsCut.scan` — how a walk ends;
* `exists_records_append_tail` — every stream is laid out so.
-/

namespace OfficePictures
namespace Workbook

/-! ## Complete records -/

/-- The header of a record that declares a body of `length` bytes. -/
def headerBytes (kind : UInt16) (length : Nat) : Bytes :=
  Bytes.ofU16 kind ++ Bytes.ofNat 2 length

/-- A record with a body that its header can declare. -/
structure CompleteRecord where
  kind : UInt16
  body : Bytes
  body_lt : body.length < UInt16.size

namespace CompleteRecord

/-- The record in a stream, where it begins at `offset`. -/
def placed (record : CompleteRecord) (offset : Nat) : Record :=
  ⟨record.kind, offset, record.body⟩

def bytes (record : CompleteRecord) : Bytes :=
  (record.placed 0).encode

theorem bytes_eq (record : CompleteRecord) :
    record.bytes = headerBytes record.kind record.body.length ++ record.body :=
  rfl

@[simp] theorem length_bytes (record : CompleteRecord) :
    record.bytes.length = Record.headerLength + record.body.length := by
  rw [bytes_eq, headerBytes, List.length_append, List.length_append, Bytes.length_ofU16,
    Bytes.length_ofNat]
  rfl

end CompleteRecord

/-- The bytes of records that follow one another. -/
def recordBytes (records : List CompleteRecord) : Bytes :=
  records.flatMap (·.bytes)

@[simp] theorem recordBytes_cons (record : CompleteRecord) (records : List CompleteRecord) :
    recordBytes (record :: records) = record.bytes ++ recordBytes records :=
  List.flatMap_cons

@[simp] theorem recordBytes_append (records others : List CompleteRecord) :
    recordBytes (records ++ others) = recordBytes records ++ recordBytes others :=
  List.flatMap_append

/-- The records of a stream that follow one another, the first at `offset`. -/
def placedRecords : (offset : Nat) → List CompleteRecord → List Record
  | _, [] => []
  | offset, record :: records =>
      record.placed offset :: placedRecords (offset + record.bytes.length) records

/-! ## Walking over a stream -/

theorem scan_headerBytes_append (kind : UInt16) {length : Nat} (h : length < UInt16.size)
    (rest : Bytes) (offset : Nat) :
    Record.scan (headerBytes kind length ++ rest) offset =
      if rest.length < length then .stopped (.record offset (.workbookRecordTruncated kind))
      else .cons ⟨kind, offset, rest.take length⟩
        (Record.scan (rest.drop length) (offset + Record.headerLength + length)) := by
  have hkind : UInt16.ofNat (Bytes.toNat (Bytes.ofU16 kind)) = kind := by
    have hlt : kind.toNat < Bytes.bound 2 := kind.toNat_lt
    rw [Bytes.ofU16, Bytes.toNat_ofNat, Nat.mod_eq_of_lt hlt, UInt16.ofNat_toNat]
  have hlength : Bytes.toNat (Bytes.ofNat 2 length) = length := by
    have hlt : length < Bytes.bound 2 := h
    rw [Bytes.toNat_ofNat, Nat.mod_eq_of_lt hlt]
  have hkindBytes : Bytes.ofU16 kind =
      [UInt8.ofNat (kind.toNat % 256), UInt8.ofNat (kind.toNat / 256 % 256)] := rfl
  have hlengthBytes : Bytes.ofNat 2 length =
      [UInt8.ofNat (length % 256), UInt8.ofNat (length / 256 % 256)] := rfl
  have hshort : (rest.take length).length < length ↔ rest.length < length := by
    rw [List.length_take]
    omega
  rw [headerBytes, hkindBytes, hlengthBytes]
  simp only [List.cons_append, List.nil_append]
  rw [Record.scan, ← hkindBytes, ← hlengthBytes, hkind, hlength]
  exact ite_congr (propext hshort) (fun _ => rfl) fun _ => rfl

theorem scan_bytes_append (record : CompleteRecord) (rest : Bytes) (offset : Nat) :
    Record.scan (record.bytes ++ rest) offset =
      .cons (record.placed offset) (Record.scan rest (offset + record.bytes.length)) := by
  have hbytes : record.bytes ++ rest =
      headerBytes record.kind record.body.length ++ (record.body ++ rest) := by
    rw [CompleteRecord.bytes_eq, List.append_assoc]
  have hwhole : ¬ (record.body ++ rest).length < record.body.length := by
    rw [List.length_append]
    omega
  rw [hbytes, scan_headerBytes_append record.kind record.body_lt, if_neg hwhole, List.take_left,
    List.drop_left, CompleteRecord.length_bytes, Nat.add_assoc]
  rfl

/-- A walk over complete records yields them and goes on behind them. -/
theorem scan_records_append (records : List CompleteRecord) (rest : Bytes) (offset : Nat) :
    Record.scan (recordBytes records ++ rest) offset =
      let walk := Record.scan rest (offset + (recordBytes records).length)
      ⟨placedRecords offset records ++ walk.items, walk.obstacle⟩ := by
  induction records generalizing offset with
  | nil => rfl
  | cons record records ih =>
      rw [recordBytes_cons, List.append_assoc, scan_bytes_append, ih, List.length_append,
        Nat.add_assoc]
      rfl

/-- Fewer bytes than a header has are no record. -/
theorem scan_of_short {padding : Bytes} (h : padding.length < Record.headerLength) (offset : Nat) :
    Record.scan padding offset = .done := by
  rw [Record.scan]
  intro k₀ k₁ l₀ l₁ rest hlong
  rw [hlong] at h
  simp only [List.length_cons, Record.headerLength] at h
  omega

/-- The bytes begin with the header of a record of the given kind whose body is cut off. -/
def IsCut (bytes : Bytes) (kind : UInt16) : Prop :=
  ∃ length rest, length < UInt16.size ∧ rest.length < length ∧
    bytes = headerBytes kind length ++ rest

theorem IsCut.scan {bytes : Bytes} {kind : UInt16} (h : IsCut bytes kind) (offset : Nat) :
    Record.scan bytes offset = .stopped (.record offset (.workbookRecordTruncated kind)) := by
  rcases h with ⟨length, rest, hlength, hcut, rfl⟩
  rw [scan_headerBytes_append kind hlength, if_pos hcut]

/-! ## Every stream is laid out so -/

/-- Bytes that hold no complete record: too few for a header, or a record that is cut off. -/
def IsTail (bytes : Bytes) : Prop :=
  bytes.length < Record.headerLength ∨ ∃ kind, IsCut bytes kind

/-- A stream that is long enough for a header begins with one. -/
theorem exists_headerBytes_append {stream : Bytes} (h : Record.headerLength ≤ stream.length) :
    ∃ kind length rest, length < UInt16.size ∧ stream = headerBytes kind length ++ rest := by
  match stream, h with
  | k₀ :: k₁ :: l₀ :: l₁ :: rest, _ =>
      have hkind : Bytes.toNat [k₀, k₁] < UInt16.size := Bytes.toNat_lt [k₀, k₁]
      have hlength : Bytes.toNat [l₀, l₁] < UInt16.size := Bytes.toNat_lt [l₀, l₁]
      refine ⟨UInt16.ofNat (Bytes.toNat [k₀, k₁]), Bytes.toNat [l₀, l₁], rest, hlength, ?_⟩
      have hkindBytes : Bytes.ofU16 (UInt16.ofNat (Bytes.toNat [k₀, k₁])) = [k₀, k₁] := by
        rw [Bytes.ofU16, UInt16.toNat_ofNat_of_lt' hkind]
        exact Bytes.ofNat_toNat [k₀, k₁]
      have hlengthBytes : Bytes.ofNat 2 (Bytes.toNat [l₀, l₁]) = [l₀, l₁] :=
        Bytes.ofNat_toNat [l₀, l₁]
      rw [headerBytes, hkindBytes, hlengthBytes]
      rfl

theorem exists_records_append_tail (stream : Bytes) :
    ∃ records tail, IsTail tail ∧ stream = recordBytes records ++ tail := by
  -- Each complete record that is taken off leaves fewer bytes.
  induction hlength : stream.length using Nat.strongRecOn generalizing stream with
  | ind size ih =>
      subst hlength
      by_cases hshort : stream.length < Record.headerLength
      · exact ⟨[], stream, .inl hshort, rfl⟩
      · rcases exists_headerBytes_append (Nat.le_of_not_lt hshort) with
          ⟨kind, length, rest, hlength, rfl⟩
        by_cases hcut : rest.length < length
        · exact ⟨[], _, .inr ⟨kind, length, rest, hlength, hcut, rfl⟩, rfl⟩
        · have hbody : (rest.take length).length = length := by
            rw [List.length_take]
            omega
          have hless : (rest.drop length).length < (headerBytes kind length ++ rest).length := by
            simp only [headerBytes, List.length_append, Bytes.length_ofU16, List.length_drop]
            omega
          rcases ih _ hless (rest.drop length) rfl with ⟨records, tail, htail, hrest⟩
          let record : CompleteRecord := ⟨kind, rest.take length, hbody.symm ▸ hlength⟩
          refine ⟨record :: records, tail, htail, ?_⟩
          have hrecord : record.bytes = headerBytes kind length ++ rest.take length := by
            rw [CompleteRecord.bytes_eq, hbody]
          rw [recordBytes_cons, List.append_assoc, ← hrest, hrecord, List.append_assoc,
            List.take_append_drop]

end Workbook
end OfficePictures
