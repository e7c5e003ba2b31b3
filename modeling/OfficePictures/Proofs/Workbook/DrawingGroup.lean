import OfficePictures.Proofs.Workbook.RecordLayout

/-!
# DrawingGroup — how the drawing group of a workbook is put together

The drawing group is spread over records of its own type and the continuations behind them.  What is
read of a workbook stream is said here without a walk: which records belong to the drawing group,
which streams have one, and what is wrong with the others.

* `Belongs` — which records belong to the drawing group;
* `SoundStream` — the streams that can be read, with their drawing group;
* `Defect` — the other streams, with their fault;
* `drawingGroup_eq_ok_iff`, `drawingGroup_eq_error_iff` — reading gives the one or the other.
-/

namespace OfficePictures
namespace Workbook

/-! ## Which records belong to the drawing group -/

/-- The records end with a run of the drawing group: a record of its own type, and behind it nothing
but continuations and further records of that type. -/
def EndsInGroup (before : List CompleteRecord) : Prop :=
  ∃ front first run, before = front ++ first :: run ∧ first.kind = Record.drawingGroupKind ∧
    ∀ other ∈ run, other.kind = Record.continueKind ∨ other.kind = Record.drawingGroupKind

/-- A record that follows the records `before` belongs to the drawing group. -/
def Belongs (before : List CompleteRecord) (record : CompleteRecord) : Prop :=
  record.kind = Record.drawingGroupKind ∨
    record.kind = Record.continueKind ∧ EndsInGroup before

theorem not_endsInGroup_nil : ¬ EndsInGroup [] := by
  rintro ⟨front, first, run, h, -⟩
  cases front <;> cases h

/-- A record that belongs to the drawing group is all that the next one has to know. -/
theorem endsInGroup_append_singleton {before : List CompleteRecord} {record : CompleteRecord} :
    EndsInGroup (before ++ [record]) ↔ Belongs before record := by
  constructor
  · rintro ⟨front, first, run, h, hfirst, hrun⟩
    -- The record is the first one of the run, or the last one behind others.
    rcases List.eq_nil_or_concat run with rfl | ⟨middle, last, rfl⟩
    · rcases List.append_inj' h rfl with ⟨-, hlast⟩
      cases hlast
      exact .inl hfirst
    · rw [List.concat_eq_append] at h hrun
      rw [← List.cons_append, ← List.append_assoc] at h
      rcases List.append_inj' h rfl with ⟨hbefore, hlast⟩
      cases hlast
      rcases hrun record (List.mem_append_right _ (List.mem_singleton_self record)) with
        hkind | hkind
      · refine .inr ⟨hkind, front, first, middle, hbefore, hfirst, ?_⟩
        exact fun other hother => hrun other (List.mem_append_left _ hother)
      · exact .inl hkind
  · rintro (hkind | ⟨hkind, front, first, run, rfl, hfirst, hrun⟩)
    · exact ⟨before, record, [], rfl, hkind, fun _ hother => absurd hother List.not_mem_nil⟩
    · have hsplit : front ++ first :: run ++ [record] = front ++ first :: (run ++ [record]) := by
        rw [List.append_assoc, List.cons_append]
      refine ⟨front, first, run ++ [record], hsplit, hfirst, ?_⟩
      intro other hother
      rcases List.mem_append.1 hother with hother | hother
      · exact hrun other hother
      · rw [List.mem_singleton.1 hother]
        exact .inl hkind

/-- The step that tells from the front whether records end with a run of the drawing group. -/
def continuesGroup (inGroup : Bool) (record : CompleteRecord) : Bool :=
  record.kind = Record.drawingGroupKind || record.kind = Record.continueKind && inGroup

theorem continuesGroup_iff {before : List CompleteRecord} {inGroup : Bool}
    (h : inGroup = true ↔ EndsInGroup before) (record : CompleteRecord) :
    continuesGroup inGroup record = true ↔ Belongs before record := by
  unfold continuesGroup Belongs
  rw [Bool.or_eq_true, Bool.and_eq_true, decide_eq_true_iff, decide_eq_true_iff, h]

theorem foldl_continuesGroup_iff {before : List CompleteRecord} {inGroup : Bool}
    (h : inGroup = true ↔ EndsInGroup before) (records : List CompleteRecord) :
    records.foldl continuesGroup inGroup = true ↔ EndsInGroup (before ++ records) := by
  induction records generalizing before inGroup with
  | nil =>
      rw [List.append_nil]
      exact h
  | cons record records ih =>
      have hstep : continuesGroup inGroup record = true ↔ EndsInGroup (before ++ [record]) :=
        (continuesGroup_iff h record).trans endsInGroup_append_singleton.symm
      have hrest := ih hstep
      rw [List.append_assoc] at hrest
      exact hrest

theorem endsInGroup_iff {before : List CompleteRecord} :
    before.foldl continuesGroup false = true ↔ EndsInGroup before :=
  foldl_continuesGroup_iff (iff_of_false Bool.false_ne_true not_endsInGroup_nil) before

instance (before : List CompleteRecord) : Decidable (EndsInGroup before) :=
  decidable_of_iff _ endsInGroup_iff

instance (before : List CompleteRecord) (record : CompleteRecord) :
    Decidable (Belongs before record) :=
  inferInstanceAs (Decidable (_ ∨ _ ∧ _))

/-- The bodies, in order, of the records that belong to the drawing group; `before` are the records
in front of the given ones. -/
def groupBehind (before : List CompleteRecord) : List CompleteRecord → Bytes
  | [] => []
  | record :: records =>
      (if Belongs before record then record.body else []) ++
        groupBehind (before ++ [record]) records

/-- The drawing group of records. -/
def groupOf (records : List CompleteRecord) : Bytes :=
  groupBehind [] records

/-! ## Records in front of the end -/

/-- The record is not one at which reading stops. -/
def IsInner (record : CompleteRecord) : Prop :=
  record.kind ≠ Record.eofKind ∧ record.kind ≠ Record.filePassKind

/-- One record: it yields its body if it belongs to the drawing group, and says whether the next one
can continue it. -/
theorem groupBytes_cons {record : CompleteRecord} (hinner : IsInner record)
    (before : List CompleteRecord) (obstacle : Option Fault) (offset : Nat)
    (others : List Record) :
    groupBytes obstacle (decide (EndsInGroup before)) (record.placed offset :: others) =
      (groupBytes obstacle (decide (EndsInGroup (before ++ [record]))) others).map
        ((if Belongs before record then record.body else []) ++ ·) := by
  have hkind : (record.placed offset).kind = record.kind := rfl
  have hbelongs : (record.kind = Record.drawingGroupKind ∨
      record.kind = Record.continueKind ∧ decide (EndsInGroup before) = true) ↔
        Belongs before record := by
    rw [decide_eq_true_iff]
    rfl
  rw [groupBytes, hkind, if_neg hinner.2, if_neg hinner.1]
  by_cases hrecord : Belongs before record
  · have hnext : decide (EndsInGroup (before ++ [record])) = true :=
      decide_eq_true (endsInGroup_append_singleton.2 hrecord)
    rw [if_pos (hbelongs.2 hrecord), if_pos hrecord, hnext]
    cases groupBytes obstacle true others <;> rfl
  · have hnext : decide (EndsInGroup (before ++ [record])) = false :=
      decide_eq_false fun h => hrecord (endsInGroup_append_singleton.1 h)
    rw [if_neg fun h => hrecord (hbelongs.1 h), if_neg hrecord, hnext]
    cases groupBytes obstacle false others <;> rfl

/-- Records in front of the end yield their part of the drawing group, and the rest decides. -/
theorem groupBytes_append {records : List CompleteRecord}
    (hinner : ∀ record ∈ records, IsInner record) (before : List CompleteRecord)
    (obstacle : Option Fault) (offset : Nat) (others : List Record) :
    groupBytes obstacle (decide (EndsInGroup before)) (placedRecords offset records ++ others) =
      (groupBytes obstacle (decide (EndsInGroup (before ++ records))) others).map
        (groupBehind before records ++ ·) := by
  -- The flag is kept equal to whether the records passed so far end with a run of the group.
  induction records generalizing before offset with
  | nil =>
      rw [List.append_nil, placedRecords, List.nil_append]
      cases groupBytes obstacle (decide (EndsInGroup before)) others <;> rfl
  | cons record records ih =>
      have hrecord := hinner record (List.mem_cons_self ..)
      have hrest := fun other hother => hinner other (List.mem_cons_of_mem _ hother)
      rw [placedRecords, List.cons_append, groupBytes_cons hrecord, ih hrest, groupBehind,
        List.append_assoc, List.singleton_append]
      cases groupBytes obstacle (decide (EndsInGroup (before ++ record :: records))) others with
      | error fault => rfl
      | ok group => simp only [Except.map, List.append_assoc]

/-! ## Streams that can be read -/

/-- The record that a workbook of the version that is read begins with. -/
def IsBof (record : CompleteRecord) : Prop :=
  record.kind = Record.bofKind ∧ Bytes.u16? record.body 0 = some version

theorem not_endsInGroup_bof {bof : CompleteRecord} (hbof : IsBof bof) : ¬ EndsInGroup [bof] := by
  have hnot : ¬ Belongs [] bof := by
    rintro (hkind | ⟨hkind, -⟩)
    · exact absurd (hbof.1.symm.trans hkind) (by decide)
    · exact absurd (hbof.1.symm.trans hkind) (by decide)
  exact fun h => hnot (endsInGroup_append_singleton.1 h)

theorem groupOf_bof {bof : CompleteRecord} (hbof : IsBof bof) (records : List CompleteRecord) :
    groupOf (bof :: records) = groupBehind [bof] records := by
  have hnot : ¬ Belongs [] bof := fun h =>
    not_endsInGroup_bof hbof (endsInGroup_append_singleton.2 h)
  rw [groupOf, groupBehind, if_neg hnot]
  rfl

/-- What a walk adds to the drawing group. -/
def walkGroup (inGroup : Bool) (walk : Walk Fault Record) : Except Fault Bytes :=
  groupBytes walk.obstacle inGroup walk.items

/-- After the records in front of the end, what follows them decides. -/
theorem drawingGroup_records_append {bof : CompleteRecord} {records : List CompleteRecord}
    (hbof : IsBof bof) (hinner : ∀ record ∈ records, IsInner record) (rest : Bytes) :
    drawingGroup (recordBytes (bof :: records) ++ rest) =
      (walkGroup (decide (EndsInGroup (bof :: records)))
        (Record.scan rest (recordBytes (bof :: records)).length)).map
          (groupOf (bof :: records) ++ ·) := by
  have hversion : (Bytes.u16? (bof.placed 0).body 0).getD 0 = version := by
    rw [show (bof.placed 0).body = bof.body from rfl, hbof.2]
    rfl
  have hfalse : decide (EndsInGroup [bof]) = false := decide_eq_false (not_endsInGroup_bof hbof)
  have hgroup := groupBytes_append hinner [bof]
    (Record.scan rest (recordBytes (bof :: records)).length).obstacle (0 + bof.bytes.length)
    (Record.scan rest (recordBytes (bof :: records)).length).items
  rw [hfalse, ← groupOf_bof hbof] at hgroup
  unfold drawingGroup
  rw [scan_records_append, Nat.zero_add]
  dsimp only [placedRecords, List.cons_append]
  have hkind : ¬ (bof.placed 0).kind ≠ Record.bofKind := not_not_intro hbof.1
  rw [if_neg hkind, hversion, if_neg (not_not_intro rfl)]
  exact hgroup

/-- What follows the records that are read: too few bytes for a further one, or an end record with
anything behind it. -/
inductive Ending
  | padding (bytes : Bytes) (length_lt : bytes.length < Record.headerLength)
  | eof (record : CompleteRecord) (kind_eq : record.kind = Record.eofKind) (rest : Bytes)

def Ending.bytes : Ending → Bytes
  | padding bytes _ => bytes
  | eof record _ rest => record.bytes ++ rest

/-- Nothing of what follows the records that are read belongs to the drawing group. -/
theorem Ending.walkGroup_scan (ending : Ending) (inGroup : Bool) (offset : Nat) :
    walkGroup inGroup (Record.scan ending.bytes offset) = .ok [] := by
  cases ending with
  | padding bytes hlength =>
      rw [Ending.bytes, scan_of_short hlength]
      rfl
  | eof record hkind rest =>
      have hend : (record.placed offset).kind = Record.eofKind := hkind
      rw [Ending.bytes, scan_bytes_append, walkGroup, Walk.items_cons, groupBytes, hend,
        if_neg (by decide), if_pos rfl]

/-- A workbook stream that can be read. -/
structure SoundStream where
  bof : CompleteRecord
  records : List CompleteRecord
  ending : Ending
  isBof : IsBof bof
  isInner : ∀ record ∈ records, IsInner record

namespace SoundStream

def bytes (stream : SoundStream) : Bytes :=
  recordBytes (stream.bof :: stream.records) ++ stream.ending.bytes

def group (stream : SoundStream) : Bytes :=
  groupOf (stream.bof :: stream.records)

theorem drawingGroup_bytes (stream : SoundStream) :
    drawingGroup stream.bytes = .ok stream.group := by
  rw [bytes, drawingGroup_records_append stream.isBof stream.isInner,
    stream.ending.walkGroup_scan, Except.map, List.append_nil, group]

end SoundStream

/-! ## Streams that cannot be read -/

/-- What can be wrong with a workbook stream, and the fault for it.  The first defect counts. -/
inductive Defect : Bytes → Fault → Prop
  | short {stream : Bytes} (hshort : stream.length < Record.headerLength) :
      Defect stream (.notOpened .noBof)
  | firstCut {stream : Bytes} {kind : UInt16} (hcut : IsCut stream kind) :
      Defect stream (.record 0 (.workbookRecordTruncated kind))
  | noBof {first : CompleteRecord} (hkind : first.kind ≠ Record.bofKind) (rest : Bytes) :
      Defect (first.bytes ++ rest) (.notOpened .noBof)
  | oldVersion {first : CompleteRecord} (hkind : first.kind = Record.bofKind)
      (hversion : Bytes.u16? first.body 0 ≠ some version) (rest : Bytes) :
      Defect (first.bytes ++ rest)
        (.oldFormat (.workbook ((Bytes.u16? first.body 0).getD 0)))
  | encrypted {bof filePass : CompleteRecord} {records : List CompleteRecord} (hbof : IsBof bof)
      (hinner : ∀ record ∈ records, IsInner record)
      (hkind : filePass.kind = Record.filePassKind) (rest : Bytes) :
      Defect (recordBytes (bof :: records) ++ (filePass.bytes ++ rest)) .encrypted
  | cut {bof : CompleteRecord} {records : List CompleteRecord} {tail : Bytes} {kind : UInt16}
      (hbof : IsBof bof) (hinner : ∀ record ∈ records, IsInner record) (hcut : IsCut tail kind) :
      Defect (recordBytes (bof :: records) ++ tail)
        (.record (recordBytes (bof :: records)).length (.workbookRecordTruncated kind))

theorem Defect.drawingGroup_eq {stream : Bytes} {fault : Fault} (h : Defect stream fault) :
    drawingGroup stream = .error fault := by
  cases h with
  | short hshort =>
      rw [drawingGroup, scan_of_short hshort]
      rfl
  | firstCut hcut =>
      rw [drawingGroup, hcut.scan]
      rfl
  | noBof hkind rest =>
      rename_i first
      rw [drawingGroup, scan_bytes_append]
      exact if_pos hkind
  | oldVersion hkind hversion rest =>
      rename_i first
      have hfound : (Bytes.u16? first.body 0).getD 0 ≠ version := by
        intro h
        cases hfield : Bytes.u16? first.body 0 with
        | none =>
            rw [hfield] at h
            exact absurd h (by decide)
        | some found =>
            rw [hfield] at h hversion
            exact hversion (congrArg some h)
      rw [drawingGroup, scan_bytes_append]
      exact (if_neg (not_not_intro hkind)).trans (if_pos hfound)
  | encrypted hbof hinner hkind rest =>
      rename_i bof filePass records
      have hstop : (filePass.placed (recordBytes (bof :: records)).length).kind =
          Record.filePassKind := hkind
      rw [drawingGroup_records_append hbof hinner, scan_bytes_append, walkGroup, Walk.items_cons,
        groupBytes, hstop, if_pos rfl]
      rfl
  | cut hbof hinner hcut =>
      rw [drawingGroup_records_append hbof hinner, hcut.scan]
      rfl

/-! ## Every stream is the one or the other -/

/-- The first record at which reading stops, if there is one. -/
theorem isInner_or_exists_stop (records : List CompleteRecord) :
    (∀ record ∈ records, IsInner record) ∨
      ∃ front stop rest, records = front ++ stop :: rest ∧ (∀ record ∈ front, IsInner record) ∧
        (stop.kind = Record.eofKind ∨ stop.kind = Record.filePassKind) := by
  induction records with
  | nil => exact .inl fun _ h => absurd h List.not_mem_nil
  | cons record records ih =>
      by_cases hstop : record.kind = Record.eofKind ∨ record.kind = Record.filePassKind
      · exact .inr ⟨[], record, records, rfl, fun _ h => absurd h List.not_mem_nil, hstop⟩
      · have hrecord : IsInner record := not_or.1 hstop
        rcases ih with hall | ⟨front, stop, rest, rfl, hfront, hkind⟩
        · exact .inl (List.forall_mem_cons.2 ⟨hrecord, hall⟩)
        · exact .inr ⟨record :: front, stop, rest, rfl, List.forall_mem_cons.2 ⟨hrecord, hfront⟩,
            hkind⟩

/-- The same for streams that begin as they should. -/
theorem sound_or_defect_of_isBof {bof : CompleteRecord} (hbof : IsBof bof)
    (records : List CompleteRecord) {tail : Bytes} (htail : IsTail tail) :
    (∃ sound : SoundStream, recordBytes (bof :: records) ++ tail = sound.bytes) ∨
      ∃ fault, Defect (recordBytes (bof :: records) ++ tail) fault := by
  rcases isInner_or_exists_stop records with hinner | ⟨front, stop, rest, rfl, hfront, hkind⟩
  · rcases htail with hshort | ⟨kind, hcut⟩
    · exact .inl ⟨⟨bof, records, .padding tail hshort, hbof, hinner⟩, rfl⟩
    · exact .inr ⟨_, .cut hbof hinner hcut⟩
  -- Behind the stop it does not matter how the stream goes on.
  · have hbytes : recordBytes (bof :: (front ++ stop :: rest)) ++ tail =
        recordBytes (bof :: front) ++ (stop.bytes ++ (recordBytes rest ++ tail)) := by
      simp only [recordBytes_cons, recordBytes_append, List.append_assoc]
    rw [hbytes]
    rcases hkind with heof | hfilePass
    · exact .inl ⟨⟨bof, front, .eof stop heof _, hbof, hfront⟩, rfl⟩
    · exact .inr ⟨_, .encrypted hbof hfront hfilePass _⟩

theorem sound_or_defect (stream : Bytes) :
    (∃ sound : SoundStream, stream = sound.bytes) ∨ ∃ fault, Defect stream fault := by
  rcases exists_records_append_tail stream with ⟨records, tail, htail, rfl⟩
  cases records with
  | nil =>
      rcases htail with hshort | ⟨kind, hcut⟩
      · exact .inr ⟨_, .short hshort⟩
      · exact .inr ⟨_, .firstCut hcut⟩
  | cons first records =>
      have hbytes : recordBytes (first :: records) ++ tail =
          first.bytes ++ (recordBytes records ++ tail) := by
        rw [recordBytes_cons, List.append_assoc]
      by_cases hkind : first.kind = Record.bofKind
      · by_cases hversion : Bytes.u16? first.body 0 = some version
        · exact sound_or_defect_of_isBof ⟨hkind, hversion⟩ records htail
        · rw [hbytes]
          exact .inr ⟨_, .oldVersion hkind hversion _⟩
      · rw [hbytes]
        exact .inr ⟨_, .noBof hkind _⟩

theorem drawingGroup_eq_ok_iff {stream group : Bytes} :
    drawingGroup stream = .ok group ↔
      ∃ sound : SoundStream, stream = sound.bytes ∧ group = sound.group := by
  constructor
  · intro h
    rcases sound_or_defect stream with ⟨sound, rfl⟩ | ⟨fault, hdefect⟩
    · rw [sound.drawingGroup_bytes] at h
      cases h
      exact ⟨sound, rfl, rfl⟩
    · rw [hdefect.drawingGroup_eq] at h
      cases h
  · rintro ⟨sound, rfl, rfl⟩
    exact sound.drawingGroup_bytes

theorem drawingGroup_eq_error_iff {stream : Bytes} {fault : Fault} :
    drawingGroup stream = .error fault ↔ Defect stream fault := by
  constructor
  · intro h
    rcases sound_or_defect stream with ⟨sound, rfl⟩ | ⟨found, hdefect⟩
    · rw [sound.drawingGroup_bytes] at h
      cases h
    · rw [hdefect.drawingGroup_eq] at h
      cases h
      exact hdefect
  · exact fun h => h.drawingGroup_eq

end Workbook
end OfficePictures
