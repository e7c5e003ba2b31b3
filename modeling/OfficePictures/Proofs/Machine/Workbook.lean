import OfficePictures.Proofs.Art.RecordLayout
import OfficePictures.Proofs.Machine.BlipStore
import OfficePictures.Proofs.Workbook.Document
import OfficePictures.Proofs.Workbook.DrawingGroup

/-!
# Workbook — workbook streams read in machine words

The records of a workbook stream are read by position, and the drawing group grows while they are
read.  It is put together from bodies in the stream, so that there is room for it.

* `nextRecord?_cases` — one record, or none, or a fault;
* `groupFrom_eq` — the records behind the first one, up to the end;
* `drawingGroup_eq`, `sheetPictures_eq` — a drawing group and its pictures.
-/

namespace OfficePictures

/-! ## Streams and their drawing groups -/

namespace Workbook

/-- What the fields of a header tell that stands at `position`. -/
theorem fields_of_drop_eq {stream rest : Bytes} {position length : Nat} {kind : UInt16}
    (h : stream.drop position = headerBytes kind length ++ rest) (hlength : length < UInt16.size) :
    Bytes.u16? stream position = some kind ∧
      Bytes.u16? stream (position + 2) = some (UInt16.ofNat length) ∧
        stream.drop (position + Record.headerLength) = rest := by
  have hkind := Bytes.u16?_ofU16_append kind (Bytes.ofNat 2 length ++ rest)
  have hfield := Bytes.natAt?_append (Bytes.ofU16 kind) (Bytes.ofNat 2 length ++ rest) 0 2
  have hvalue : length % Bytes.bound 2 = length := Nat.mod_eq_of_lt hlength
  rw [Bytes.length_ofU16, Bytes.natAt?_ofNat_append, hvalue] at hfield
  rw [headerBytes, List.append_assoc] at h
  refine ⟨?_, ?_, ?_⟩
  · rw [← hkind, ← h, Bytes.u16?, Bytes.u16?, Bytes.natAt?_drop]
    rfl
  · rw [Bytes.u16?, ← Bytes.natAt?_drop, h, hfield, Option.map_some]
  · rw [← List.drop_drop, h]
    rfl

theorem length_groupBehind_le (before records : List CompleteRecord) :
    (groupBehind before records).length ≤ (recordBytes records).length := by
  induction records generalizing before with
  | nil => exact Nat.le_refl _
  | cons record records ih =>
      have hrest := ih (before ++ [record])
      rw [groupBehind, recordBytes_cons, List.length_append, List.length_append,
        CompleteRecord.length_bytes]
      split
      · omega
      · rw [List.length_nil]
        omega

/-- A drawing group is not longer than the stream that it is spread over. -/
theorem length_le_of_drawingGroup {stream group : Bytes} (h : drawingGroup stream = .ok group) :
    group.length ≤ stream.length := by
  rcases drawingGroup_eq_ok_iff.1 h with ⟨sound, rfl, rfl⟩
  have hgroup := length_groupBehind_le [] (sound.bof :: sound.records)
  rw [SoundStream.bytes, SoundStream.group, groupOf, List.length_append]
  omega

end Workbook

namespace Machine

open Workbook

/-! ## Records -/

/-- The kind of the record whose header is at `offset`, and the length of its body. -/
def fields? (stream : Bytes) (offset : Nat) : Guarded (Option (UInt16 × UInt16)) := do
  match ← u16? stream offset with
  | none => return none
  | some kind =>
      match ← u16? stream (← add offset 2) with
      | none => return none
      | some length => return some (kind, length)

/-- The record that begins at `offset`; fewer bytes than a header has are padding. -/
def nextRecord? (stream : Bytes) (offset : Nat) :
    Attempt (Option { _record : Record // offset < stream.length }) :=
  if hshort : stream.length - offset < Record.headerLength then
    return none
  else
    have hinside : offset < stream.length := by
      simp only [Record.headerLength] at hshort
      omega
    do
      match ← fields? stream offset with
      | none => return none
      | some (kind, length) =>
          let start ← add offset Record.headerLength
          let stop ← add start length.toNat
          match part? stream start stop with
          | none => throw (.record offset (.workbookRecordTruncated kind))
          | some body => return some ⟨⟨kind, offset, body⟩, hinside⟩

/-- The drawing group in the records from `position` on, behind what there is of it in front of
them. -/
def groupFrom (stream : Bytes) (inGroup : Bool) (group : Bytes) (position : Nat) :
    Attempt Bytes := do
  match ← nextRecord? stream position with
  | none => return group
  | some ⟨record, _⟩ =>
      let ⟨start, _⟩ ← sum position Record.headerLength
      let ⟨next, _⟩ ← sum start record.body.length
      if record.kind = Record.filePassKind then
        throw .encrypted
      else if record.kind = Record.eofKind then
        return group
      else if record.kind = Record.drawingGroupKind ∨
          record.kind = Record.continueKind ∧ inGroup then
        groupFrom stream true (group ++ record.body) next
      else
        groupFrom stream false group next
termination_by stream.length - position
decreasing_by
  all_goals
    simp only [Record.headerLength] at *
    omega

def drawingGroup (stream : Bytes) : Attempt Bytes := do
  match ← nextRecord? stream 0 with
  | none => throw (.notOpened .noBof)
  | some ⟨first, _⟩ =>
      if first.kind ≠ Record.bofKind then
        throw (.notOpened .noBof)
      else
        let found := (← u16? first.body 0).getD 0
        if found ≠ version then
          throw (.oldFormat (.workbook found))
        else
          let next ← add Record.headerLength first.body.length
          groupFrom stream false [] next

/-- The pictures of a workbook stream. -/
def sheetPictures [Toolkit] (limits : Limits) (stream : Bytes) : Attempt (List Picture) := do
  let group ← drawingGroup stream
  if group = [] then
    return []
  else
    let blips ← blipStorePictures group 0 none limits
    return blips.mapIdx toPicture

section Records

variable {stream : Bytes} {position : Nat}

theorem fields?_eq {rest : Bytes} {length : Nat} {kind : UInt16}
    (hstream : stream.length < 2 ^ 62) (hinside : position < stream.length)
    (hbytes : stream.drop position = headerBytes kind length ++ rest)
    (hlength : length < UInt16.size) :
    fields? stream position = .ok (some (kind, UInt16.ofNat length)) := by
  rcases fields_of_drop_eq hbytes hlength with ⟨hkind, hfield, -⟩
  unfold fields?
  rw [Guarded.bind_eq (u16?_eq (.inr (by omega))), hkind]
  dsimp only
  rw [Guarded.bind_eq (add_eq (by omega)), Guarded.bind_eq (u16?_eq (.inr (by omega))), hfield]
  rfl

/-- Behind a header there is the body of its record, or the record is cut off. -/
theorem nextRecord?_of_headerBytes {rest : Bytes} {length : Nat} {kind : UInt16}
    (hstream : stream.length < 2 ^ 62) (hinside : position < stream.length)
    (hbytes : stream.drop position = headerBytes kind length ++ rest)
    (hlength : length < UInt16.size) :
    nextRecord? stream position =
      .of (if rest.length < length then
        .error (.record position (.workbookRecordTruncated kind))
      else
        .ok (some ⟨⟨kind, position, rest.take length⟩, hinside⟩)) := by
  have hheader : Record.headerLength = 4 := rfl
  have hvalue : (UInt16.ofNat length).toNat = length := UInt16.toNat_ofNat_of_lt' hlength
  have hsmall : length < 2 ^ 16 := hlength
  have hwhole : stream.length - position = Record.headerLength + rest.length := by
    rw [← List.length_drop, hbytes, List.length_append]
    rfl
  rw [nextRecord?, dif_neg (by omega)]
  refine (Attempt.lift_bind (fields?_eq hstream hinside hbytes hlength) _).trans ?_
  refine (Attempt.lift_bind (add_eq (by omega)) _).trans ?_
  refine (Attempt.lift_bind (add_eq (by omega)) _).trans ?_
  rw [part?_add, hvalue, Bytes.slice?, (fields_of_drop_eq hbytes hlength).2.2]
  by_cases hcut : rest.length < length
  · rw [if_neg (by omega), if_pos hcut]
    rfl
  · rw [if_pos (by omega), if_neg hcut]
    rfl

/-- What stands at a position of a small stream is read without a trap: padding, a record that is
cut off, or a record and what follows it. -/
theorem nextRecord?_cases (hstream : stream.length < 2 ^ 62) (hposition : position ≤ stream.length) :
    (nextRecord? stream position = .of (.ok none) ∧
      Record.scan (stream.drop position) position = .done) ∨
    (∃ fault, nextRecord? stream position = .of (.error fault) ∧
      Record.scan (stream.drop position) position = .stopped fault) ∨
    ∃ record hinside, nextRecord? stream position = .of (.ok (some ⟨record, hinside⟩)) ∧
      position + Record.headerLength + record.body.length ≤ stream.length ∧
        Record.scan (stream.drop position) position =
          .cons record (Record.scan
            (stream.drop (position + Record.headerLength + record.body.length))
              (position + Record.headerLength + record.body.length)) := by
  have hheader : Record.headerLength = 4 := rfl
  have hdrop : (stream.drop position).length = stream.length - position := List.length_drop
  by_cases hshort : stream.length - position < Record.headerLength
  · refine .inl ⟨?_, scan_of_short (by omega) position⟩
    rw [nextRecord?, dif_pos hshort]
    rfl
  rcases exists_headerBytes_append (by omega : Record.headerLength ≤ (stream.drop position).length)
    with ⟨kind, length, rest, hlength, hbytes⟩
  have hinside : position < stream.length := by omega
  have hnext := nextRecord?_of_headerBytes hstream hinside hbytes hlength
  by_cases hcut : rest.length < length
  · rw [if_pos hcut] at hnext
    exact .inr (.inl ⟨_, hnext, IsCut.scan ⟨length, rest, hlength, hcut, hbytes⟩ position⟩)
  · rw [if_neg hcut] at hnext
    have hrest := (fields_of_drop_eq hbytes hlength).2.2
    have hlong : rest.length = stream.length - (position + Record.headerLength) := by
      rw [← hrest, List.length_drop]
    have hbody : (rest.take length).length = length := by
      rw [List.length_take]
      omega
    refine .inr (.inr ⟨_, hinside, hnext, ?_, ?_⟩)
    · dsimp only
      omega
    · dsimp only
      rw [hbytes, scan_headerBytes_append kind hlength, if_neg hcut, hbody, ← List.drop_drop,
        hrest]

/-- The records behind the first one are taken without a trap. -/
theorem groupFrom_eq (hstream : stream.length < 2 ^ 62) (inGroup : Bool) (group : Bytes)
    (hposition : position ≤ stream.length) :
    groupFrom stream inGroup group position =
      .of ((walkGroup inGroup (Record.scan (stream.drop position) position)).map (group ++ ·)) := by
  have hheader : Record.headerLength = 4 := rfl
  induction hleft : stream.length - position using Nat.strongRecOn
    generalizing inGroup group position with
  | ind left ih =>
      rw [groupFrom]
      rcases nextRecord?_cases hstream hposition with
        ⟨hnext, hscan⟩ | ⟨fault, hnext, hscan⟩ | ⟨record, hinside, hnext, hend, hscan⟩
      · rw [hnext, hscan]
        exact Attempt.of_nothing group
      · rw [hnext, hscan]
        rfl
      · rw [hnext, hscan]
        refine (Attempt.lift_bind (sum_eq (by omega)) _).trans ?_
        refine (Attempt.lift_bind (sum_eq (by omega)) _).trans ?_
        have hless : stream.length - (position + Record.headerLength + record.body.length) < left := by
          omega
        rw [walkGroup, Walk.items_cons, Walk.obstacle_cons, groupBytes]
        simp only [apply_ite (Except.map (group ++ ·))]
        refine Attempt.ite_of (fun _ => rfl) fun _ => ?_
        refine Attempt.ite_of (fun _ => Attempt.of_nothing group) fun _ => ?_
        -- The records behind this one go on from the group with its body, or without it.
        refine Attempt.ite_of (fun _ => ?_) fun _ => ih _ hless false group hend rfl
        rw [ih _ hless true (group ++ record.body) hend rfl, walkGroup]
        cases groupBytes _ true _ with
        | error fault => rfl
        | ok more =>
            exact congrArg Attempt.of (congrArg Except.ok (List.append_assoc group record.body more))

/-- A drawing group is put together without a trap. -/
theorem drawingGroup_eq (hstream : stream.length < 2 ^ 62) :
    drawingGroup stream = .of (Workbook.drawingGroup stream) := by
  have hheader : Record.headerLength = 4 := rfl
  unfold drawingGroup Workbook.drawingGroup
  rcases nextRecord?_cases hstream (Nat.zero_le _) with
    ⟨hnext, hscan⟩ | ⟨fault, hnext, hscan⟩ | ⟨first, hinside, hnext, hend, hscan⟩
  · rw [List.drop_zero] at hscan
    rw [hnext, hscan]
    rfl
  · rw [List.drop_zero] at hscan
    rw [hnext, hscan]
    rfl
  · rw [List.drop_zero, Nat.zero_add] at hscan
    rw [Nat.zero_add] at hend
    rw [hnext, hscan]
    rw [Attempt.of_ok_bind]
    dsimp only [Walk.items_cons, Walk.obstacle_cons]
    refine Attempt.ite_of (fun _ => rfl) fun _ => ?_
    refine (Attempt.lift_bind (u16?_eq (.inl (by decide))) _).trans ?_
    refine Attempt.ite_of (fun _ => rfl) fun _ => ?_
    refine (Attempt.lift_bind (add_eq (by omega)) _).trans ?_
    rw [groupFrom_eq hstream false [] hend, walkGroup]
    cases groupBytes _ false _ <;> rfl

/-- The pictures of a small workbook stream are found without a trap. -/
theorem sheetPictures_eq [Toolkit] (hstream : stream.length < 2 ^ 62) (limits : Limits) :
    sheetPictures limits stream = .of (Workbook.streamPictures limits stream) := by
  unfold sheetPictures Workbook.streamPictures
  rw [drawingGroup_eq hstream]
  refine Attempt.of_bind ?_
  intro group hgroup
  have hlength := length_le_of_drawingGroup hgroup
  have hroom : HasRoom group 0 := by
    unfold HasRoom
    omega
  by_cases hempty : group = []
  · -- Nothing is in an empty group.
    rw [if_pos hempty, hempty, Art.blipStorePictures, Art.Record.scan_of_short (by decide)]
    rfl
  · rw [if_neg hempty, blipStorePictures_eq hroom (fun _ h => absurd h (Option.not_mem_none _))]
    exact Attempt.of_bind fun _ _ => rfl

end Records

end Machine
end OfficePictures
