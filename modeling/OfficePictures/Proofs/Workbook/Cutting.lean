import OfficePictures.Proofs.Container.Miniature
import OfficePictures.Proofs.Workbook.Document
import OfficePictures.Proofs.Workbook.DrawingGroup
import OfficePictures.Toolkit.BuiltIn

/-!
# Cutting — a drawing group in pieces

A writer cuts the drawing group of a workbook into pieces that fit in records.  The first piece of a
run goes into a record of the drawing group, the others into continuations directly behind it, and
other records may stand around the runs.

* `Cutting.drawingGroup_bytes` — however it was cut, the drawing group is put together again;
* `Cutting.pictures_eq` — the pictures of a workbook are those of its drawing group;
* `drawingGroup_and_pictures` — all of what is read of workbook streams together.
-/

namespace OfficePictures
namespace Workbook

open Compound

/-! ## Pieces of a list of records -/

theorem groupBehind_append (before records others : List CompleteRecord) :
    groupBehind before (records ++ others) =
      groupBehind before records ++ groupBehind (before ++ records) others := by
  induction records generalizing before with
  | nil => rw [List.nil_append, List.append_nil, groupBehind, List.nil_append]
  | cons record records ih =>
      rw [List.cons_append, groupBehind, groupBehind, ih, List.append_assoc, List.append_assoc,
        List.singleton_append]

/-- The record is neither a part of the drawing group nor one at which reading stops. -/
def IsOther (record : CompleteRecord) : Prop :=
  IsInner record ∧ record.kind ≠ Record.drawingGroupKind ∧ record.kind ≠ Record.continueKind

theorem groupBehind_of_isOther {records : List CompleteRecord}
    (h : ∀ record ∈ records, IsOther record) (before : List CompleteRecord) :
    groupBehind before records = [] := by
  induction records generalizing before with
  | nil => rfl
  | cons record records ih =>
      rcases List.forall_mem_cons.1 h with ⟨hrecord, hrest⟩
      have hnot : ¬ Belongs before record := by
        rintro (hkind | ⟨hkind, -⟩)
        · exact hrecord.2.1 hkind
        · exact hrecord.2.2 hkind
      rw [groupBehind, if_neg hnot, ih hrest]
      rfl

/-- Bytes that fit in a record. -/
structure Piece where
  bytes : Bytes
  length_lt : bytes.length < UInt16.size

def Piece.record (kind : UInt16) (piece : Piece) : CompleteRecord :=
  ⟨kind, piece.bytes, piece.length_lt⟩

theorem Piece.isInner_record {kind : UInt16}
    (h : kind ≠ Record.eofKind ∧ kind ≠ Record.filePassKind) (piece : Piece) :
    IsInner (piece.record kind) :=
  h

/-- Continuations directly behind the drawing group belong to it. -/
theorem groupBehind_continuations {before : List CompleteRecord} (h : EndsInGroup before)
    (pieces : List Piece) :
    groupBehind before (pieces.map (Piece.record Record.continueKind)) =
      pieces.flatMap (·.bytes) := by
  induction pieces generalizing before with
  | nil => rfl
  | cons piece pieces ih =>
      have hbelongs : Belongs before (piece.record Record.continueKind) := .inr ⟨rfl, h⟩
      rw [List.map_cons, groupBehind, if_pos hbelongs,
        ih (endsInGroup_append_singleton.2 hbelongs), List.flatMap_cons]
      rfl

/-! ## Cuttings -/

/-- A piece in a record of the drawing group, pieces in continuations, and other records. -/
structure Run where
  first : Piece
  more : List Piece
  others : List CompleteRecord
  isOther : ∀ record ∈ others, IsOther record

namespace Run

def records (run : Run) : List CompleteRecord :=
  run.first.record Record.drawingGroupKind ::
    (run.more.map (Piece.record Record.continueKind) ++ run.others)

def bytes (run : Run) : Bytes :=
  run.first.bytes ++ run.more.flatMap (·.bytes)

theorem isInner_of_mem (run : Run) : ∀ record ∈ run.records, IsInner record := by
  intro record hmem
  rcases List.mem_cons.1 hmem with rfl | hmem
  · exact Piece.isInner_record (by decide) run.first
  · rcases List.mem_append.1 hmem with hmem | hmem
    · rcases List.mem_map.1 hmem with ⟨piece, -, rfl⟩
      exact Piece.isInner_record (by decide) piece
    · exact (run.isOther record hmem).1

/-- A run yields its bytes, whatever stands in front of it. -/
theorem groupBehind_records (run : Run) (before : List CompleteRecord) :
    groupBehind before run.records = run.bytes := by
  have hbelongs : Belongs before (run.first.record Record.drawingGroupKind) := .inl rfl
  have hends := endsInGroup_append_singleton.2 hbelongs
  -- The first record of a run begins it anew; what was before does not matter from there on.
  rw [records, groupBehind, if_pos hbelongs, groupBehind_append, groupBehind_continuations hends,
    groupBehind_of_isOther run.isOther, List.append_nil]
  rfl

end Run

/-- A workbook stream with a drawing group in pieces: the first record, others in front of the runs,
the runs, and the end. -/
structure Cutting where
  bof : CompleteRecord
  front : List CompleteRecord
  runs : List Run
  ending : Ending
  isBof : IsBof bof
  isOther : ∀ record ∈ front, IsOther record

namespace Cutting

def toSoundStream (cutting : Cutting) : SoundStream where
  bof := cutting.bof
  records := cutting.front ++ cutting.runs.flatMap (·.records)
  ending := cutting.ending
  isBof := cutting.isBof
  isInner := by
    intro record hmem
    rcases List.mem_append.1 hmem with hmem | hmem
    · exact (cutting.isOther record hmem).1
    · rcases List.mem_flatMap.1 hmem with ⟨run, -, hrecord⟩
      exact run.isInner_of_mem record hrecord

def bytes (cutting : Cutting) : Bytes :=
  cutting.toSoundStream.bytes

/-- The drawing group: all pieces in order. -/
def group (cutting : Cutting) : Bytes :=
  cutting.runs.flatMap (·.bytes)

theorem groupBehind_runs (runs : List Run) (before : List CompleteRecord) :
    groupBehind before (runs.flatMap (·.records)) = runs.flatMap (·.bytes) := by
  induction runs generalizing before with
  | nil => rfl
  | cons run runs ih =>
      rw [List.flatMap_cons, groupBehind_append, run.groupBehind_records, ih, List.flatMap_cons]

theorem group_toSoundStream (cutting : Cutting) :
    cutting.toSoundStream.group = cutting.group := by
  have hrecords : cutting.toSoundStream.records =
      cutting.front ++ cutting.runs.flatMap (·.records) := rfl
  rw [SoundStream.group, groupOf_bof cutting.toSoundStream.isBof, hrecords, groupBehind_append,
    groupBehind_of_isOther cutting.isOther, groupBehind_runs, List.nil_append, group]

/-- However it was cut, the drawing group is put together again. -/
theorem drawingGroup_bytes (cutting : Cutting) :
    drawingGroup cutting.bytes = .ok cutting.group := by
  rw [bytes, cutting.toSoundStream.drawingGroup_bytes, cutting.group_toSoundStream]

/-- The pictures of a workbook are those of its drawing group, however it was cut. -/
theorem pictures_eq [Toolkit] (cutting : Cutting) {content : Bytes} {limits : Limits} {file : File}
    (hfile : File.ofBytes content = .ok file)
    (hstream : file.readStream limits "Workbook" = .ok cutting.bytes) :
    pictures content limits =
      (Art.blipStorePictures cutting.group 0 none limits).map (·.mapIdx toPicture) :=
  pictures_eq_of_drawingGroup hfile hstream cutting.drawingGroup_bytes

end Cutting

/-- What is read of a workbook stream.  There is a drawing group for each sound stream, put together
from the records that belong to it; any other stream has a defect, and the fault is that of the
defect.  Hence workbooks whose streams are cuttings of one drawing group have the same pictures. -/
theorem drawingGroup_and_pictures [Toolkit] :
    (∀ stream group, drawingGroup stream = .ok group ↔
      ∃ sound : SoundStream, stream = sound.bytes ∧ group = sound.group) ∧
    (∀ stream fault, drawingGroup stream = .error fault ↔ Defect stream fault) ∧
    (∀ (cutting other : Cutting), cutting.group = other.group →
      ∀ (limits : Limits) (content content' : Bytes) (file file' : File),
        File.ofBytes content = .ok file →
        file.readStream limits "Workbook" = .ok cutting.bytes →
        File.ofBytes content' = .ok file' →
        file'.readStream limits "Workbook" = .ok other.bytes →
        pictures content limits = pictures content' limits) := by
  refine ⟨fun _ _ => drawingGroup_eq_ok_iff, fun _ _ => drawingGroup_eq_error_iff, ?_⟩
  intro cutting other hgroup limits content content' file file' hfile hstream hfile' hstream'
  rw [cutting.pictures_eq hfile hstream, other.pictures_eq hfile' hstream', hgroup]

/-! ## A small workbook, cut in two ways -/

def sheetEntry : Art.CompleteRecord where
  version := ⟨2, by decide⟩
  instanceId := ⟨5, by decide⟩
  recType := Art.storeEntryType
  body := List.replicate 36 0 ++ Container.smallBitmap.bytes
  body_lt := by decide +kernel

def sheetStore : Art.CompleteRecord where
  version := ⟨15, by decide⟩
  instanceId := ⟨1, by decide⟩
  recType := Art.blipStoreType
  body := sheetEntry.bytes
  body_lt := by decide +kernel

def sheetDrawing : Art.CompleteRecord where
  version := ⟨15, by decide⟩
  instanceId := ⟨0, by decide⟩
  recType := Art.drawingGroupType
  body := sheetStore.bytes
  body_lt := by decide +kernel

def sheetBof : CompleteRecord :=
  ⟨Record.bofKind, [0x00, 0x06, 0x05, 0x00], by decide⟩

theorem isBof_sheetBof : IsBof sheetBof :=
  ⟨rfl, by decide⟩

/-- A record that tells the code page. -/
def sheetOther : CompleteRecord :=
  ⟨0x0042, [0xB0, 0x04], by decide⟩

theorem isOther_sheetOther : ∀ record ∈ [sheetOther], IsOther record := by
  intro record hmem
  rw [List.mem_singleton.1 hmem]
  exact ⟨⟨by decide, by decide⟩, by decide, by decide⟩

def sheetPiece (start length : Nat) (h : length < UInt16.size) : Piece :=
  ⟨(sheetDrawing.bytes.drop start).take length, by rw [List.length_take]; omega⟩

theorem length_nil_lt : ([] : Bytes).length < UInt16.size := by
  decide

/-- The drawing group in one record, or in four with another one between them; in front of the
end, or of an end record with a cut record behind it. -/
def sheetCutting : (isSplit : Bool) → Cutting
  | false =>
      { bof := sheetBof
        front := []
        runs := [⟨sheetPiece 0 100 (by decide), [], [], fun _ h => absurd h List.not_mem_nil⟩]
        ending := .padding [0] (by decide)
        isBof := isBof_sheetBof
        isOther := fun _ h => absurd h List.not_mem_nil }
  | true =>
      { bof := sheetBof
        front := [sheetOther]
        runs :=
          [⟨sheetPiece 0 5 (by decide), [sheetPiece 5 30 (by decide)], [sheetOther],
              isOther_sheetOther⟩,
            ⟨sheetPiece 35 20 (by decide), [sheetPiece 55 100 (by decide)], [],
              fun _ h => absurd h List.not_mem_nil⟩]
        ending := .eof ⟨Record.eofKind, [], length_nil_lt⟩ rfl [0xEB, 0, 9, 0, 1]
        isBof := isBof_sheetBof
        isOther := isOther_sheetOther }

theorem group_sheetCutting (isSplit : Bool) :
    (sheetCutting isSplit).group = sheetDrawing.bytes := by
  revert isSplit
  decide +kernel

def sheet (isSplit : Bool) : Container.Miniature :=
  ⟨[("Workbook", (sheetCutting isSplit).bytes)]⟩

theorem isReadable_sheet (isSplit : Bool) : (sheet isSplit).IsReadable where
  header := by
    revert isSplit
    decide +kernel
  table := by
    unfold table?
    rw [Sectors.getWhole?_eq_wholeSlice?]
    revert isSplit
    decide +kernel
  directory := by
    unfold directory?
    rw [Sectors.getWhole?_eq_wholeSlice?]
    revert isSplit
    decide +kernel
  miniTable := by
    revert isSplit
    decide +kernel

theorem holds_sheet (isSplit : Bool) :
    (sheet isSplit).file.Holds "Workbook" (sheetCutting isSplit).bytes := by
  unfold File.Holds File.streamBytes? File.miniSector?
  rw [Sectors.get_eq_slice]
  revert isSplit
  decide +kernel

def sheetLimits : Limits :=
  ⟨4, 200⟩

theorem readStream_sheet (isSplit : Bool) :
    (sheet isSplit).file.readStream sheetLimits "Workbook" = .ok (sheetCutting isSplit).bytes := by
  refine (holds_sheet isSplit).readStream ?_
  revert isSplit
  decide +kernel

theorem blipStorePictures_sheet :
    Art.blipStorePictures sheetDrawing.bytes 0 none sheetLimits =
      .ok [⟨.png, [0x50, 0x4E, 0x47, 0x21], 85⟩] :=
  Result.ok_of_toOption (by decide +kernel)

/-- Both workbooks have the same picture. -/
theorem drawingGroup_and_pictures_sheet :
    pictures (sheet false).bytes sheetLimits = pictures (sheet true).bytes sheetLimits ∧
      pictures (sheet true).bytes sheetLimits =
        .ok [toPicture 0 ⟨.png, [0x50, 0x4E, 0x47, 0x21], 85⟩] := by
  have hgroup : (sheetCutting false).group = (sheetCutting true).group := by
    rw [group_sheetCutting, group_sheetCutting]
  refine ⟨drawingGroup_and_pictures.2.2 _ _ hgroup sheetLimits _ _ _ _
    (isReadable_sheet false).ofBytes_bytes (readStream_sheet false)
    (isReadable_sheet true).ofBytes_bytes (readStream_sheet true), ?_⟩
  rw [(sheetCutting true).pictures_eq (isReadable_sheet true).ofBytes_bytes (readStream_sheet true),
    group_sheetCutting, blipStorePictures_sheet]
  rfl

end Workbook
end OfficePictures
