import OfficePictures.Proofs.Slideshow.Listing
import OfficePictures.Proofs.Workbook.Cutting
import OfficePictures.Toolkit.BuiltIn

/-!
# Truncation — streams that are cut off

Wherever a stream is cut off, nothing is read of it that is not read of the whole: there is a fault,
or the pictures are the first ones of the whole, with the same names and bytes.

* `Result.FailsOrStarts` — a fault, or the first items of a list;
* `Workbook.isPrefix_of_drawingGroup` — a workbook that is cut off has the first bytes of the
  drawing group;
* `Art.isPrefix_of_blipStorePictures` — the first bytes of a drawing group hold its first pictures;
* `Container.truncated_pictures` — presentations and workbooks.
-/

namespace OfficePictures

/-- The result is a failure, or the first items of `whole`. -/
def Result.FailsOrStarts {ε α : Type} (result : Except ε (List α)) (whole : List α) : Prop :=
  (∃ e, result = .error e) ∨ ∃ list, result = .ok list ∧ list <+: whole

theorem Result.FailsOrStarts.intro {ε α : Type} {result : Except ε (List α)} {whole : List α}
    (h : ∀ list, result = .ok list → list <+: whole) : FailsOrStarts result whole := by
  cases hresult : result with
  | error e => exact .inl ⟨e, rfl⟩
  | ok list => exact .inr ⟨list, rfl, h list hresult⟩

/-! ## Presentations -/

theorem Slideshow.isPrefix_of_streamPictures {limits : Limits} {front stream : Bytes}
    {list list' : List Picture} (hfront : front <+: stream)
    (h : streamPictures front limits = .ok list)
    (hwhole : streamPictures stream limits = .ok list') : list <+: list' := by
  rcases hfront with ⟨rest, rfl⟩
  have hrecords : (Art.Record.scan front 0).items <+: (Art.Record.scan (front ++ rest) 0).items :=
    Art.Record.items_scan_isPrefix front rest 0
  have hlisted := hrecords.filterMap listed?
  -- The first records have the numbers that they have in the whole.
  have hnumbered : (listedRecords (Art.Record.scan front 0).items).zipIdx <+:
      (listedRecords (Art.Record.scan (front ++ rest) 0).items).zipIdx := by
    rcases hlisted with ⟨more, hmore⟩
    rw [listedRecords, listedRecords, ← hmore, List.zipIdx_append]
    exact List.prefix_append _ _
  have hlist := isListing_iff.1 (streamPictures_eq_ok_iff.1 h).2
  have hlist' := isListing_iff.1 (streamPictures_eq_ok_iff.1 hwhole).2
  exact Result.isPrefix_of_mapM hnumbered hlist hlist'

/-! ## Drawing groups -/

/-- A drawing group that is cut off holds the first pictures: a container is passed on whole, or
not at all. -/
theorem Art.isPrefix_of_blipStorePictures {limits : Limits} {base : Nat}
    {delay : Option DelayStream} {front data : Bytes} {blips blips' : List Blip}
    (hfront : front <+: data) (h : blipStorePictures front base delay limits = .ok blips)
    (hwhole : blipStorePictures data base delay limits = .ok blips') : blips <+: blips' := by
  rcases hfront with ⟨rest, rfl⟩
  exact Walk.isPrefix_of_gather (Record.items_scan_isPrefix front rest base) h hwhole

namespace Workbook

theorem IsTail.items_scan {tail : Bytes} (h : IsTail tail) (offset : Nat) :
    (Record.scan tail offset).items = [] := by
  rcases h with hshort | ⟨kind, hcut⟩
  · rw [scan_of_short hshort]
    rfl
  · rw [hcut.scan]
    rfl

theorem Record.items_scan_isPrefix (front rest : Bytes) (offset : Nat) :
    (scan front offset).items <+: (scan (front ++ rest) offset).items := by
  rcases exists_records_append_tail front with ⟨records, tail, htail, rfl⟩
  rw [List.append_assoc, scan_records_append, scan_records_append]
  dsimp only
  rw [htail.items_scan, List.append_nil]
  exact List.prefix_append _ _

/-- More records behind can only lengthen the drawing group, whatever stops the one walk or the
other. -/
theorem isPrefix_of_groupBytes {obstacle obstacle' : Option Fault} {inGroup : Bool}
    {records : List Record} (more : List Record) {bytes bytes' : Bytes}
    (h : groupBytes obstacle inGroup records = .ok bytes)
    (hwhole : groupBytes obstacle' inGroup (records ++ more) = .ok bytes') : bytes <+: bytes' := by
  induction records generalizing inGroup bytes bytes' with
  | nil =>
      cases obstacle with
      | some fault => cases h
      | none =>
          cases h
          exact List.nil_prefix
  | cons record records ih =>
      rw [groupBytes] at h
      rw [List.cons_append, groupBytes] at hwhole
      by_cases hfilePass : record.kind = Record.filePassKind
      · rw [if_pos hfilePass] at h
        cases h
      rw [if_neg hfilePass] at h hwhole
      by_cases heof : record.kind = Record.eofKind
      · -- Neither reads on behind an end record.
        rw [if_pos heof] at h hwhole
        cases h
        cases hwhole
        exact List.prefix_rfl
      rw [if_neg heof] at h hwhole
      split at h
      · rename_i hbelongs
        rw [if_pos hbelongs] at hwhole
        cases hfound : groupBytes obstacle true records with
        | error fault =>
            rw [hfound] at h
            cases h
        | ok found =>
            cases hfound' : groupBytes obstacle' true (records ++ more) with
            | error fault =>
                rw [hfound'] at hwhole
                cases hwhole
            | ok found' =>
                rw [hfound] at h
                rw [hfound'] at hwhole
                cases h
                cases hwhole
                exact (List.prefix_append_right_inj record.body).2 (ih hfound hfound')
      · rename_i hother
        rw [if_neg hother] at hwhole
        exact ih h hwhole

theorem isPrefix_of_drawingGroup {front stream group group' : Bytes} (hfront : front <+: stream)
    (h : drawingGroup front = .ok group) (hwhole : drawingGroup stream = .ok group') :
    group <+: group' := by
  rcases hfront with ⟨rest, rfl⟩
  rcases Record.items_scan_isPrefix front rest 0 with ⟨more, hmore⟩
  unfold drawingGroup at h hwhole
  dsimp only at h hwhole
  rw [← hmore] at hwhole
  cases hitems : (Record.scan front 0).items with
  | nil =>
      rw [hitems] at h
      cases h
  | cons first records =>
      rw [hitems] at h hwhole
      rw [List.cons_append] at hwhole
      dsimp only at h hwhole
      split at h
      · cases h
      · rename_i hbof
        rw [if_neg hbof] at hwhole
        split at h
        · cases h
        · rename_i hversion
          rw [if_neg hversion] at hwhole
          exact isPrefix_of_groupBytes more h hwhole

/-- The pictures of the drawing group of a workbook stream. -/
def groupBlips (limits : Limits) (stream : Bytes) : Except Fault (List Art.Blip) := do
  let group ← drawingGroup stream
  Art.blipStorePictures group 0 none limits

theorem streamPictures_eq_groupBlips [Toolkit] (limits : Limits) (stream : Bytes) :
    streamPictures limits stream = (groupBlips limits stream).map (·.mapIdx toPicture) := by
  rw [streamPictures, groupBlips]
  cases drawingGroup stream with
  | error fault => rfl
  | ok group =>
      simp only [bind, Except.bind]
      cases Art.blipStorePictures group 0 none limits <;> rfl

theorem isPrefix_of_groupBlips {limits : Limits} {front stream : Bytes}
    {blips blips' : List Art.Blip} (hfront : front <+: stream)
    (h : groupBlips limits front = .ok blips) (hwhole : groupBlips limits stream = .ok blips') :
    blips <+: blips' := by
  rcases Result.exists_of_bind h with ⟨group, hgroup, h⟩
  rcases Result.exists_of_bind hwhole with ⟨group', hgroup', hwhole⟩
  exact Art.isPrefix_of_blipStorePictures (isPrefix_of_drawingGroup hfront hgroup hgroup') h hwhole

theorem isPrefix_of_streamPictures [Toolkit] {limits : Limits} {front stream : Bytes}
    {list list' : List Picture} (hfront : front <+: stream)
    (h : streamPictures limits front = .ok list)
    (hwhole : streamPictures limits stream = .ok list') : list <+: list' := by
  rw [streamPictures_eq_groupBlips] at h hwhole
  rcases Result.exists_of_map h with ⟨blips, hblips, rfl⟩
  rcases Result.exists_of_map hwhole with ⟨blips', hblips', rfl⟩
  rcases isPrefix_of_groupBlips hfront hblips hblips' with ⟨more, rfl⟩
  rw [List.mapIdx_append]
  exact List.prefix_append _ _

end Workbook

/-! ## Both -/

namespace Container

open Result

/-- No picture of a stream that is cut off is altered or made up.  Wherever a stream of a
presentation or of a workbook is cut off, there is a fault, or the pictures are the first ones of
the whole stream. -/
theorem truncated_pictures [Toolkit] (limits : Limits) {front stream : Bytes}
    (hfront : front <+: stream) :
    (∀ list, Slideshow.streamPictures stream limits = .ok list →
      FailsOrStarts (Slideshow.streamPictures front limits) list) ∧
    (∀ blips, Workbook.groupBlips limits stream = .ok blips →
      FailsOrStarts (Workbook.groupBlips limits front) blips) ∧
    (∀ list, Workbook.streamPictures limits stream = .ok list →
      FailsOrStarts (Workbook.streamPictures limits front) list) := by
  refine ⟨?_, ?_, ?_⟩
  · intro list hlist
    exact .intro fun _ h => Slideshow.isPrefix_of_streamPictures hfront h hlist
  · intro blips hblips
    exact .intro fun _ h => Workbook.isPrefix_of_groupBlips hfront h hblips
  · intro list hlist
    exact .intro fun _ h => Workbook.isPrefix_of_streamPictures hfront h hlist

/-- A presentation of two pictures that is cut off in the header of the second one, and a workbook
that is cut off between the records of its drawing group. -/
theorem truncated_pictures_two :
    FailsOrStarts
        (Slideshow.streamPictures ((Art.recordBytes [smallBitmap, smallBitmap]).take 32) ⟨4, 200⟩)
        [⟨[0x50, 0x4E, 0x47, 0x21], .png, some "image_0.png", some "png", none⟩,
          ⟨[0x50, 0x4E, 0x47, 0x21], .png, some "image_1.png", some "png", none⟩] ∧
      FailsOrStarts
        (Workbook.streamPictures Workbook.sheetLimits
          ((Workbook.sheetCutting true).bytes.take 23))
        [Workbook.toPicture 0 ⟨.png, [0x50, 0x4E, 0x47, 0x21], 85⟩] := by
  have hslides : Slideshow.streamPictures (Art.recordBytes [smallBitmap, smallBitmap]) ⟨4, 200⟩ =
      .ok [⟨[0x50, 0x4E, 0x47, 0x21], .png, some "image_0.png", some "png", none⟩,
        ⟨[0x50, 0x4E, 0x47, 0x21], .png, some "image_1.png", some "png", none⟩] :=
    Result.ok_of_toOption (by decide +kernel)
  have hblips : Workbook.groupBlips Workbook.sheetLimits (Workbook.sheetCutting true).bytes =
      .ok [⟨.png, [0x50, 0x4E, 0x47, 0x21], 85⟩] := by
    rw [Workbook.groupBlips, (Workbook.sheetCutting true).drawingGroup_bytes,
      Workbook.group_sheetCutting]
    exact Workbook.blipStorePictures_sheet
  have hsheet : Workbook.streamPictures Workbook.sheetLimits (Workbook.sheetCutting true).bytes =
      .ok [Workbook.toPicture 0 ⟨.png, [0x50, 0x4E, 0x47, 0x21], 85⟩] := by
    rw [Workbook.streamPictures_eq_groupBlips, hblips]
    rfl
  exact ⟨(truncated_pictures ⟨4, 200⟩ (List.take_prefix 32 _)).1 _ hslides,
    (truncated_pictures Workbook.sheetLimits (List.take_prefix 23 _)).2.2 _ hsheet⟩

end Container
end OfficePictures
