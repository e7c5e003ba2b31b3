import OfficePictures.Proofs.Container.Streams
import OfficePictures.Proofs.Machine.Fib
import OfficePictures.Proofs.Machine.FormattedPage
import OfficePictures.Proofs.Machine.InlinePicture
import OfficePictures.Proofs.Machine.Slideshow
import OfficePictures.Proofs.Machine.Workbook

/-!
# Document — binary documents read in machine words

* `pictures_eq` — small streams of a binary document are read without a trap;
* `pictures_free_of_traps` — so no binary document is answered with a crash.
-/

namespace OfficePictures
namespace Machine

/-! ## Word documents -/

def drawingGroupPictures (limits : Limits) (fib : Word.Fib) (stream table : Bytes) :
    Attempt (List Art.Blip) :=
  match fib.drawingGroup with
  | none => return []
  | some range =>
      match tableSlice? range table with
      | none => throw (.notOpened (.outsideTable .drawingGroup fib.tableStream.name))
      | some group => blipStorePictures group range.offset (some ⟨stream, 0⟩) limits

def inlineLocations (fib : Word.Fib) (stream table : Bytes) : Attempt (List UInt32) :=
  match fib.formattedPages with
  | none => return []
  | some range =>
      match tableSlice? range table with
      | none => throw (.notOpened (.outsideTable .formattedPages fib.tableStream.name))
      | some pages => liftM (pictureLocations stream pages)

def dataPictures (limits : Limits) (streams : Streams) (locations : List UInt32) :
    Attempt (List Art.Blip) :=
  if locations = [] then
    return []
  else do
    match ← Attempt.of (streams.readIfPresent "Data") with
    | none => return []
    | some data => inlinePictures data locations limits

def wordPictures [Toolkit] (streams : Streams) (limits : Limits) : Attempt (List Picture) := do
  let stream ← Attempt.of (streams.read "WordDocument")
  let fib ← fib stream
  let table ← Attempt.of (streams.read fib.tableStream.name)
  let stored ← drawingGroupPictures limits fib stream table
  let locations ← inlineLocations fib stream table
  let inlined ← dataPictures limits streams locations
  return (stored ++ inlined).map Word.toPicture

section Word

variable {limits : Limits} {fib : Word.Fib} {stream table : Bytes} {streams : Streams}

/-- A part of the table stream ends where the stream does, or in front of that. -/
theorem end_le_of_slice? {range : Word.TableRange} {part : Bytes}
    (h : range.slice? table = some part) : range.offset + part.length ≤ table.length := by
  rw [length_of_slice? h]
  unfold Word.TableRange.slice? Bytes.slice? at h
  split at h
  · rename_i hinside
    exact hinside
  · cases h

theorem drawingGroupPictures_eq (hstream : stream.length < 2 ^ 62)
    (htable : table.length < 2 ^ 62) :
    drawingGroupPictures limits fib stream table =
      .of (Word.drawingGroupPictures limits fib stream table) := by
  unfold drawingGroupPictures Word.drawingGroupPictures
  cases fib.drawingGroup with
  | none => rfl
  | some range =>
      dsimp only
      rw [tableSlice?_eq (by omega), Word.tablePart]
      cases hgroup : range.slice? table with
      | none => rfl
      | some group =>
          -- The group is a part of the table stream, and its offsets are those of the part.
          have hinside := end_le_of_slice? hgroup
          have hroom : HasRoom group range.offset := by
            unfold HasRoom
            omega
          have hdelay : ∀ delay ∈ some (⟨stream, 0⟩ : Art.DelayStream),
              HasRoom delay.data delay.base := by
            intro delay hmem
            cases hmem
            unfold HasRoom
            dsimp only
            omega
          exact blipStorePictures_eq hroom hdelay

theorem inlineLocations_eq (htable : table.length < 2 ^ 62) :
    inlineLocations fib stream table = .of (Word.inlineLocations fib stream table) := by
  unfold inlineLocations Word.inlineLocations
  cases fib.formattedPages with
  | none => rfl
  | some range =>
      dsimp only
      rw [tableSlice?_eq (by omega), Word.tablePart]
      cases hpages : range.slice? table with
      | none => rfl
      | some pages =>
          have hinside := end_le_of_slice? hpages
          dsimp only
          rw [pictureLocations_eq stream (by omega)]
          rfl

theorem dataPictures_eq (hsmall : streams.AreSmall) (locations : List UInt32) :
    dataPictures limits streams locations = .of (Word.dataPicturesIn limits streams locations) := by
  unfold dataPictures Word.dataPicturesIn
  refine Attempt.ite_of (fun _ => rfl) fun _ => Attempt.of_bind ?_
  intro found hfound
  cases found with
  | none => rfl
  | some data => exact inlinePictures_eq (hsmall.length_lt hfound) locations

theorem wordPictures_eq [Toolkit] (hsmall : streams.AreSmall) (limits : Limits) :
    wordPictures streams limits = .of (Word.picturesIn streams limits) := by
  unfold wordPictures Word.picturesIn
  refine Attempt.of_bind ?_
  intro stream hstream
  rw [fib_eq]
  refine Attempt.of_bind ?_
  intro fib hfib
  refine Attempt.of_bind ?_
  intro table htable
  rw [drawingGroupPictures_eq (hsmall _ _ hstream) (hsmall _ _ htable)]
  refine Attempt.of_bind ?_
  intro stored _
  rw [inlineLocations_eq (hsmall _ _ htable)]
  refine Attempt.of_bind ?_
  intro locations _
  rw [dataPictures_eq hsmall locations]
  exact Attempt.of_bind fun _ _ => rfl

end Word

/-! ## Presentations and workbooks -/

/-- Refuses a presentation whose stream of the current user says that it is encrypted. -/
def requirePlain : Option Bytes → Attempt Unit
  | none => return ()
  | some user => do
      if (← u32? user Slideshow.tokenOffset) = some Slideshow.encryptedToken then
        throw .encrypted

def slideshowPictures (streams : Streams) (limits : Limits) : Attempt (List Picture) := do
  Attempt.of (Slideshow.requireDocumentIn streams)
  let user ← Attempt.of (streams.readIfPresent "Current User")
  requirePlain user
  match ← Attempt.of (streams.readIfPresent "Pictures") with
  | none => return []
  | some stream => streamPictures stream limits

def workbookPictures [Toolkit] (streams : Streams) (limits : Limits) : Attempt (List Picture) := do
  Attempt.of (Workbook.requireWorkbookIn streams)
  let stream ← Attempt.of (streams.read "Workbook")
  sheetPictures limits stream

section Others

variable {streams : Streams}

theorem requirePlain_eq (user : Option Bytes) :
    requirePlain user = .of (Slideshow.requirePlain user) := by
  cases user with
  | none => rfl
  | some user =>
      rw [requirePlain, Slideshow.requirePlain, Attempt.lift_bind (u32?_eq (.inl (by decide)))]
      split <;> rfl

theorem slideshowPictures_eq (hsmall : streams.AreSmall) (limits : Limits) :
    slideshowPictures streams limits = .of (Slideshow.picturesIn streams limits) := by
  unfold slideshowPictures Slideshow.picturesIn
  refine Attempt.of_bind ?_
  intro _ _
  refine Attempt.of_bind ?_
  intro user _
  rw [requirePlain_eq]
  refine Attempt.of_bind ?_
  intro _ _
  refine Attempt.of_bind ?_
  intro found hfound
  cases found with
  | none => rfl
  | some stream => exact streamPictures_eq (hsmall.length_lt hfound) limits

theorem workbookPictures_eq [Toolkit] (hsmall : streams.AreSmall) (limits : Limits) :
    workbookPictures streams limits = .of (Workbook.picturesIn streams limits) := by
  unfold workbookPictures Workbook.picturesIn
  refine Attempt.of_bind ?_
  intro _ _
  refine Attempt.of_bind ?_
  intro stream hstream
  exact sheetPictures_eq (hsmall _ _ hstream) limits

end Others

/-! ## Binary documents -/

def pictures [Toolkit] : BinaryFormat → Streams → Limits → Attempt (List Picture)
  | .word => wordPictures
  | .slideshow => slideshowPictures
  | .workbook => workbookPictures

/-- What is answered where traps are caught: a trap is a crash. -/
def contained (reading : Attempt (List Picture)) : Container.Content :=
  match reading.run with
  | .error _ => .unreadable .crashed
  | .ok (.error fault) => .unreadable fault
  | .ok (.ok []) => .empty
  | .ok (.ok (picture :: more)) => .pictures (picture :: more)

theorem pictures_eq [Toolkit] (binary : BinaryFormat) {streams : Streams}
    (hsmall : streams.AreSmall) (limits : Limits) :
    pictures binary streams limits = .of (binary.picturesIn streams limits) := by
  cases binary with
  | word => exact wordPictures_eq hsmall limits
  | slideshow => exact slideshowPictures_eq hsmall limits
  | workbook => exact workbookPictures_eq hsmall limits

/-- The answer for a document is that for its pictures. -/
theorem contained_of_pictures [Toolkit] (format : DocumentFormat) (content : Bytes)
    (limits : Limits) :
    contained (.of (Container.pictures format content limits)) =
      Container.content format content limits := by
  rw [Container.content]
  cases Container.pictures format content limits with
  | error fault => rfl
  | ok list => cases list <;> rfl

theorem contained_of_ne_crashed {result : Except Fault (List Picture)}
    (h : Result.Avoids .crashed result) : contained (.of result) ≠ .unreadable .crashed := by
  cases result with
  | error fault =>
      intro heq
      exact h (congrArg Except.error (Container.Content.unreadable.inj heq))
  | ok list => cases list <;> simp [contained, Attempt.of]

/-- Streams that are small are read without a trap, whatever they hold and whatever the limits are:
the guarded readers, in which every sum has to fit a word and every bound has to be inside, find
what the readers of the library find.  So a crash is never answered for a binary document unless
the library for compound files crashes, and where the streams are those of a file, the answer is
that for the document. -/
theorem pictures_free_of_traps [Toolkit] (binary : BinaryFormat) (limits : Limits) :
    (∀ streams : Streams, streams.AreSmall →
      pictures binary streams limits = .of (binary.picturesIn streams limits) ∧
        (streams.AreCalm → contained (pictures binary streams limits) ≠ .unreadable .crashed)) ∧
    (∀ content file, Compound.File.ofBytes content = .ok file →
      (Streams.ofFile file limits).AreSmall →
        contained (pictures binary (.ofFile file limits) limits) =
          Container.content binary.format content limits) ∧
    ∀ content, Container.content binary.format content limits ≠ .unreadable .crashed := by
  refine ⟨?_, ?_, ?_⟩
  · intro streams hsmall
    rw [pictures_eq binary hsmall]
    exact ⟨rfl, fun hcalm => contained_of_ne_crashed (binary.avoids_picturesIn hcalm limits)⟩
  · intro content file hfile hsmall
    rw [pictures_eq binary hsmall, ← contained_of_pictures, binary.pictures_eq, hfile]
    rfl
  · intro content
    rw [← contained_of_pictures]
    exact contained_of_ne_crashed (binary.avoids_pictures content limits)

/-- The letter has small streams, and its pictures are found in them without a trap: one in the
group, one delayed, and one in a block. -/
theorem pictures_free_of_traps_letter :
    (Streams.ofFile Word.letter.file Word.letterLimits).AreSmall ∧
      (Streams.ofFile Word.letter.file Word.letterLimits).AreCalm ∧
      contained (pictures .word (.ofFile Word.letter.file Word.letterLimits) Word.letterLimits) =
        .pictures ((Word.letterStored ++ Word.letterInlined).map Word.toPicture) ∧
      contained (pictures .word (.ofFile Word.letter.file Word.letterLimits) Word.letterLimits) ≠
        .unreadable .crashed := by
  have hsmall : (Streams.ofFile Word.letter.file Word.letterLimits).AreSmall :=
    .ofFile Word.letter.file (by decide)
  have hcalm : (Streams.ofFile Word.letter.file Word.letterLimits).AreCalm := .ofFile _ _
  have hfree := pictures_free_of_traps .word Word.letterLimits
  have hlisted : Container.content .doc Word.letter.bytes Word.letterLimits =
      .pictures ((Word.letterStored ++ Word.letterInlined).map Word.toPicture) :=
    Container.content_eq_pictures_iff.2 ⟨Word.pictures_letter, List.cons_ne_nil _ _⟩
  refine ⟨hsmall, hcalm, ?_, (hfree.1 _ hsmall).2 hcalm⟩
  exact (hfree.2.1 _ _ Word.letterReading.ofBytes hsmall).trans hlisted

end Machine
end OfficePictures
