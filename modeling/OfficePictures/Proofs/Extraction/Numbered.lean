import OfficePictures.Proofs.Extraction.Effect
import OfficePictures.Proofs.Extraction.Session
import OfficePictures.Proofs.FileName.Sequential
import OfficePictures.Proofs.Slideshow.Listing
import OfficePictures.Proofs.Workbook.Cutting

/-!
# Numbered — pictures that keep their numbers

Workbooks and presentations have no names for their pictures, so each is called by its number in the
list.  No such name is changed on the way to the disk: it is safe, and it is never taken.

* `AreNumbered` — pictures that are called by their numbers, as those of workbooks and
  presentations are;
* `fileNames_eq` — their files have the same names;
* `storeAll_writes`, `Course.writes_eq` — which files an extraction asks to write;
* `pictures_keep_numbers` — from the document to the paths of the files.
-/

namespace OfficePictures

/-! ## Extensions and names -/

/-- What goes with a picture as its extension: that of its kind, or else that of what it looks
like. -/
inductive Picture.HasExtension [Toolkit] (picture : Picture) : String → Prop
  | ofKind {extension : String} (hkind : picture.kind.extension? = some extension) :
      picture.HasExtension extension
  | sniffed {type : ContentType} (hkind : picture.kind = .unknown)
      (htype : Toolkit.contentType? picture.data = some type) :
      picture.HasExtension type.extension
  | unrecognised (hkind : picture.kind = .unknown)
      (htype : Toolkit.contentType? picture.data = none) : picture.HasExtension "bin"

theorem PictureKind.extension?_eq_none_iff {kind : PictureKind} :
    kind.extension? = none ↔ kind = .unknown := by
  cases kind <;> simp [extension?]

theorem PictureKind.suggestExtension_eq [Toolkit] {kind : PictureKind} {extension : String}
    (h : kind.extension? = some extension) (content : Bytes) :
    kind.suggestExtension content = extension := by
  rw [suggestExtension, h]

theorem Picture.hasExtension [Toolkit] (picture : Picture) :
    picture.HasExtension (picture.kind.suggestExtension picture.data) := by
  unfold PictureKind.suggestExtension
  cases hkind : picture.kind.extension? with
  | some extension => exact .ofKind hkind
  | none =>
      have hunknown := PictureKind.extension?_eq_none_iff.1 hkind
      cases htype : Toolkit.contentType? picture.data with
      | some type => exact .sniffed hunknown htype
      | none => exact .unrecognised hunknown htype

/-- The name of a picture that is called by its number. -/
def Picture.numberedName [Toolkit] (number : Nat) (picture : Picture) : String :=
  sequentialName number (picture.kind.suggestExtension picture.data)

/-- The names of pictures that are called by their numbers. -/
def numberedNames [Toolkit] (list : List Picture) : List String :=
  list.mapIdx Picture.numberedName

/-- The pictures are called by their numbers in the list. -/
def AreNumbered [Toolkit] (list : List Picture) : Prop :=
  list.map Picture.name = (numberedNames list).map some

theorem areNumbered_of_getElem? [Toolkit] {list : List Picture}
    (h : ∀ (number : Nat) (picture : Picture), list[number]? = some picture →
      picture.name = some (picture.numberedName number)) : AreNumbered list := by
  refine List.ext_getElem? ?_
  intro number
  rw [numberedNames, List.getElem?_map, List.getElem?_map, List.getElem?_mapIdx]
  cases hpicture : list[number]? with
  | none => rfl
  | some picture => exact congrArg some (h number picture hpicture)

theorem isSafe_numberedNames [Toolkit] (hplain : Toolkit.HasPlainExtensions)
    (list : List Picture) : ∀ name ∈ numberedNames list, FileName.IsSafe name.toList := by
  intro name hname
  rcases List.mem_mapIdx.1 hname with ⟨number, hnumber, rfl⟩
  exact FileName.isSafe_sequentialName number (PictureKind.isPlain_suggestExtension hplain _ _)

theorem nodup_lower_numberedNames [Toolkit] (list : List Picture) :
    ((numberedNames list).map fun name => Text.lower name.toList).Nodup := by
  refine List.nodup_iff_getElem?_ne_getElem?.2 ?_
  intro i j hlt hlength heq
  rw [numberedNames, List.length_map, List.length_mapIdx] at hlength
  simp only [numberedNames, List.getElem?_map, List.getElem?_mapIdx,
    List.getElem?_eq_getElem hlength, List.getElem?_eq_getElem (Nat.lt_trans hlt hlength),
    Option.map_some, Option.some.injEq] at heq
  exact Nat.ne_of_lt hlt (FileName.lower_sequentialName_inj heq)

/-! ## Workbooks and presentations -/

theorem Workbook.areNumbered_of_pictures [Toolkit] {content : Bytes} {limits : Limits}
    {list : List Picture} (h : pictures content limits = .ok list) : AreNumbered list := by
  rw [pictures_eq] at h
  rcases Result.exists_of_bind h with ⟨file, -, h⟩
  rcases Result.exists_of_bind h with ⟨_, -, h⟩
  rcases Result.exists_of_bind h with ⟨stream, -, h⟩
  rcases Result.exists_of_bind h with ⟨group, -, h⟩
  rcases Result.exists_of_bind h with ⟨blips, -, h⟩
  cases h
  refine areNumbered_of_getElem? ?_
  intro number picture hpicture
  rw [List.getElem?_mapIdx] at hpicture
  rcases Option.map_eq_some_iff.1 hpicture with ⟨blip, -, rfl⟩
  rfl

namespace Slideshow

theorem extension?_of_mem_listedRecords {records : List Art.Record} {record : Art.Record}
    {extension : String} (h : (record, extension) ∈ listedRecords records) :
    record.kind.extension? = some extension := by
  rcases List.mem_filterMap.1 h with ⟨original, -, hlisted⟩
  rcases Option.map_eq_some_iff.1 hlisted with ⟨found, hfound, heq⟩
  cases heq
  rw [← listedExtension?_ofRecordType] at hfound
  -- The kinds that are listed have the extensions that they have elsewhere.
  have hkind : ∀ kind : PictureKind, listedExtension? kind = some extension →
      kind.extension? = some extension := by
    intro kind hlisted
    cases kind <;> first | exact hlisted | cases hlisted
  exact hkind _ hfound

/-- The pictures of a presentation have kinds that are known. -/
theorem areNumbered_of_pictures [Toolkit] {content : Bytes} {limits : Limits}
    {list : List Picture} (h : pictures content limits = .ok list) :
    AreNumbered list ∧ ∀ picture ∈ list, picture.kind ≠ .unknown := by
  rw [pictures_eq_steps] at h
  rcases Result.exists_of_bind h with ⟨file, -, h⟩
  rcases Result.exists_of_bind h with ⟨_, -, h⟩
  rcases Result.exists_of_bind h with ⟨user, -, h⟩
  rcases Result.exists_of_bind h with ⟨_, -, h⟩
  rcases Result.exists_of_bind h with ⟨stream, -, h⟩
  cases stream with
  | none =>
      cases h
      exact ⟨rfl, List.forall_mem_nil _⟩
  | some stream =>
      have hlisting := (streamPictures_eq_ok_iff.1 h).2
      have hpictures : ∀ (number : Nat) (picture : Picture), list[number]? = some picture →
          ∃ extension, picture.kind.extension? = some extension ∧
            picture.name = some (sequentialName number extension) := by
        intro number picture hpicture
        have hlt : number < (listedRecords (Art.Record.scan stream 0).items).length := by
          rw [← hlisting.length_eq]
          exact (List.getElem?_eq_some_iff.1 hpicture).1
        rcases hlisting.getElem?_eq number _ _ (List.getElem?_eq_getElem hlt) with ⟨blip, -, hblip⟩
        cases hpicture.symm.trans hblip
        exact ⟨_, extension?_of_mem_listedRecords (List.getElem_mem hlt), rfl⟩
      refine ⟨areNumbered_of_getElem? ?_, ?_⟩
      · intro number picture hpicture
        rcases hpictures number picture hpicture with ⟨extension, hextension, hname⟩
        rw [hname, Picture.numberedName, PictureKind.suggestExtension_eq hextension]
      · intro picture hmem hunknown
        rcases List.getElem?_of_mem hmem with ⟨number, hpicture⟩
        rcases hpictures number picture hpicture with ⟨extension, hextension, -⟩
        rw [hunknown] at hextension
        cases hextension

end Slideshow

theorem Container.areNumbered_of_pictures [Toolkit] {format : DocumentFormat}
    (hformat : format = .xls ∨ format = .ppt) {content : Bytes} {limits : Limits}
    {list : List Picture} (h : pictures format content limits = .ok list) : AreNumbered list := by
  rcases hformat with rfl | rfl
  · exact Workbook.areNumbered_of_pictures h
  · exact (Slideshow.areNumbered_of_pictures h).1

/-! ## Files -/

namespace Extraction

theorem proposals_eq [Toolkit] {number : Nat} {pictures : List Picture} {names : List String}
    (h : pictures.map Picture.name = names.map some) :
    proposals number pictures = names.map FileName.sanitize := by
  induction pictures generalizing number names with
  | nil =>
      cases names with
      | nil => rfl
      | cons name names => cases h
  | cons picture pictures ih =>
      cases names with
      | nil => cases h
      | cons name names =>
          rw [List.map_cons, List.map_cons, List.cons.injEq] at h
          have hproposed : picture.proposedName number = name := by
            rw [Picture.proposedName, h.1]
          have hrest : proposals (number + 1) pictures = names.map FileName.sanitize := ih h.2
          rw [proposals] at hrest ⊢
          rw [List.zipIdx_cons, List.map_cons, List.map_cons, hrest, ← hproposed]

/-- The files of pictures that are called by their numbers have the same names. -/
theorem fileNames_eq [Toolkit] (hplain : Toolkit.HasPlainExtensions) {pictures : List Picture}
    (h : AreNumbered pictures) :
    fileNames pictures = numberedNames pictures := by
  have hsanitize : (numberedNames pictures).map FileName.sanitize = numberedNames pictures := by
    refine (List.map_congr_left ?_).trans (List.map_id _)
    intro name hname
    exact FileName.sanitize_eq_self_iff.2 (isSafe_numberedNames hplain pictures name hname)
  rw [fileNames, proposals_eq h, hsanitize]
  refine UniqueNames.claimAll_eq_self (nodup_lower_numberedNames pictures) ?_
  intro name _
  exact List.not_mem_nil

end Extraction

/-! ## What is written -/

/-- The path and the content of a file that is to be written. -/
def Request.file? : Request → Option (String × Bytes)
  | writeFile path bytes => some (path, bytes)
  | _ => none

namespace Extraction

open Script

/-- The files that are asked to be written, whether they can be or not. -/
def writes (log : List Exchange) : List (String × Bytes) :=
  log.filterMap fun exchange => exchange.request.file?

/-- The files of pictures under the given names. -/
def filesOf (config : Config) (document : Document) (names : List String)
    (pictures : List Picture) : List (String × Bytes) :=
  List.zipWith
    (fun name picture =>
      ((sinkOf config document).pathOf name, Encoded.encode picture.data))
    names pictures

section Writes

variable {config : Config} {document : Document} {front back log : List Exchange}

@[simp] theorem writes_append : writes (front ++ back) = writes front ++ writes back :=
  List.filterMap_append

theorem IsQuiet.writes_eq (h : IsQuiet log) : writes log = [] := by
  refine List.filterMap_eq_nil_iff.2 ?_
  rintro ⟨request, answer⟩ hmem
  have hquery := h _ hmem
  cases request <;> first | rfl | cases hquery

theorem writes_opening (pictures : List Picture) (sink : Sink) :
    writes (if pictures = [] then [] else sink.opening) = [] := by
  split
  · rfl
  · refine List.filterMap_eq_nil_iff.2 ?_
    intro exchange hmem
    rw [Sink.eq_of_mem_opening hmem]
    rfl

theorem writes_announcement (document : Document) (files : List DerivedFile) :
    writes (announcement document files) = [] := by
  unfold announcement
  split <;> rfl

theorem Treated.writes_log {sink : Sink} (treated : Treated) :
    writes (treated.log config document sink) =
      [(sink.pathOf treated.name, Encoded.encode treated.picture.data)] := by
  rcases treated with ⟨name, picture, _ | _ | file⟩ <;> rfl

theorem writes_flatMap_log {sink : Sink} (treated : List Treated) :
    writes (treated.flatMap (Treated.log config document sink)) =
      treated.map fun one => (sink.pathOf one.name, Encoded.encode one.picture.data) := by
  induction treated with
  | nil => rfl
  | cons first treated ih =>
      rw [List.flatMap_cons, writes_append, Treated.writes_log, ih]
      rfl

/-- There is no directory for the pictures, or each of them is asked to be written under its name,
in their order. -/
theorem storeAll_writes [Toolkit] {pictures : List Picture} {outcome : Outcome}
    (h : Ends (storeAll config document pictures) log outcome) :
    (outcome = .outputFailed ∧ writes log = []) ∨
      writes log = filesOf config document (fileNames pictures) pictures := by
  rcases storeAll_ends h with ⟨rfl, rfl⟩ | ⟨treated, final, front, hall, rfl, -⟩
  · exact .inl ⟨rfl, rfl⟩
  · right
    have hnames : treated.map Treated.name = fileNames pictures := hall.names_eq
    rw [writes_append, writes_announcement, List.append_nil, hall.log_eq, writes_append,
      writes_opening, List.nil_append, writes_flatMap_log, filesOf, ← hnames, ← hall.pictures_eq,
      List.zipWith_map, List.zipWith_self]
    rfl

/-- All that is told of a document is its format and its content. -/
structure Presents (document : Document) (format : DocumentFormat) (content : Bytes)
    (log : List Exchange) : Prop where
  format_eq : ∀ mime, ⟨.mimeType document, mime⟩ ∈ log →
    mime.bind DocumentFormat.ofMimeType? = some format
  content_eq : ∀ bytes, ⟨.content document, bytes⟩ ∈ log → bytes = some content

theorem Presents.heldBy_eq [Toolkit] {format found : DocumentFormat} {content : Bytes}
    (h : Presents document format content log) {mime : Option String} {bytes : Option Bytes}
    (hformat : mime.bind DocumentFormat.ofMimeType? = some found)
    (hmime : ⟨.mimeType document, mime⟩ ∈ log) (hbytes : ⟨.content document, bytes⟩ ∈ log) :
    heldBy config found bytes = Container.content format content config.limits := by
  cases hformat.symm.trans (h.format_eq mime hmime)
  cases h.content_eq bytes hbytes
  rfl

/-- Nothing is written if the document was treated before, if the case does not tell whether it was,
and if there is no directory; otherwise all pictures of the document are. -/
theorem Course.writes_eq [Toolkit] {format : DocumentFormat} {content : Bytes} {outcome : Outcome}
    {list : List Picture} (h : Course config document log outcome)
    (hpresents : Presents document format content log)
    (hlist : Container.pictures format content config.limits = .ok list) :
    (writes log = [] ∧ (outcome = .alreadyDone ∨ (∃ fault, outcome = .lookupFailed fault) ∨
        outcome = .outputFailed)) ∨
      writes log = filesOf config document (fileNames list) list := by
  cases h with
  | unsupported hformat =>
      have hknown := hpresents.format_eq _ (List.mem_cons_self ..)
      cases hformat.symm.trans hknown
  | lookupFailed fault _ => exact .inl ⟨rfl, .inr (.inl ⟨fault, rfl⟩)⟩
  | alreadyDone _ => exact .inl ⟨rfl, .inl rfl⟩
  | noPictures hformat hchecks hheld =>
      rw [hpresents.heldBy_eq hformat (by simp) (by simp)] at hheld
      right
      rw [(hchecks.isQuiet_preface _ _).writes_eq]
      cases list with
      | nil => rfl
      | cons picture list =>
          have hcontent := Container.content_eq_pictures_iff.2 ⟨hlist, List.cons_ne_nil _ _⟩
          cases hcontent.symm.trans hheld
  | unreadable hformat hchecks hheld =>
      rw [hpresents.heldBy_eq hformat (by simp) (by simp), Container.content, hlist] at hheld
      cases list <;> cases hheld
  | stored hformat hchecks hheld hlog =>
      rw [hpresents.heldBy_eq hformat (by simp) (by simp)] at hheld
      cases hlist.symm.trans (Container.content_eq_pictures_iff.1 hheld).1
      rw [writes_append, (hchecks.isQuiet_preface _ _).writes_eq, List.nil_append]
      rcases storeAll_writes hlog with ⟨hfailed, hnone⟩ | hfiles
      · exact .inl ⟨hnone, .inr (.inr hfailed)⟩
      · exact .inr hfiles

end Writes

/-- From the document to the disk, the pictures of workbooks and presentations keep their numbers.
The picture with a number is called by it and by the extension that goes with the picture; a
presentation has no pictures of unknown kinds.  The names differ also in lower case, and neither
making them safe nor claiming them one after the other changes any of them.  So, unless it ends
before the first picture, an extraction asks to write each picture to the file of this name, in
their order. -/
theorem pictures_keep_numbers [Toolkit] (hplain : Toolkit.HasPlainExtensions)
    {format : DocumentFormat} (hformat : format = .xls ∨ format = .ppt)
    {content : Bytes} {limits : Limits} {list : List Picture}
    (hlist : Container.pictures format content limits = .ok list) :
    (∀ (number : Nat) (picture : Picture), list[number]? = some picture →
      ∃ extension, picture.HasExtension extension ∧
        (format = .ppt → picture.kind ≠ .unknown) ∧
        picture.name = some ("image_" ++ Text.decimal number ++ "." ++ extension) ∧
        (numberedNames list)[number]? = picture.name) ∧
      ((numberedNames list).map fun name => Text.lower name.toList).Nodup ∧
      (∀ name ∈ numberedNames list, FileName.sanitize name = name) ∧
      (UniqueNames.empty.claimAll (numberedNames list)).1 = numberedNames list ∧
      ∀ (config : Config) (document : Document) (log : List Exchange) (outcome : Outcome),
        config.limits = limits → Ends (extract config document) log outcome →
          Presents document format content log →
            (writes log = [] ∧ (outcome = .alreadyDone ∨
                (∃ fault, outcome = .lookupFailed fault) ∨ outcome = .outputFailed)) ∨
              writes log = filesOf config document (numberedNames list) list := by
  have hnumbered := Container.areNumbered_of_pictures hformat hlist
  have hnodup := nodup_lower_numberedNames list
  refine ⟨?_, hnodup, ?_, ?_, ?_⟩
  · intro number picture hpicture
    have hname : (numberedNames list)[number]? = some (picture.numberedName number) := by
      rw [numberedNames, List.getElem?_mapIdx, hpicture]
      rfl
    have hproposed : picture.name = some (picture.numberedName number) := by
      have hsame := congrArg (fun names : List (Option String) => names[number]?) hnumbered
      simpa [hpicture, hname] using hsame
    refine ⟨_, picture.hasExtension, ?_, hproposed, hname.trans hproposed.symm⟩
    rintro rfl
    exact (Slideshow.areNumbered_of_pictures hlist).2 picture (List.mem_of_getElem? hpicture)
  · intro name hname
    exact FileName.sanitize_eq_self_iff.2 (isSafe_numberedNames hplain list name hname)
  · exact UniqueNames.claimAll_eq_self hnodup fun _ _ => List.not_mem_nil
  · rintro config document log outcome rfl hends hpresents
    rw [← fileNames_eq hplain hnumbered]
    exact (extract_ends hends).writes_eq hpresents hlist

/-! ## A workbook with two pictures -/

/-- A picture of a type that tells no kind, which begins as a GIF file does. -/
def albumAnimation : Art.CompleteRecord where
  version := Container.smallBitmap.version
  instanceId := Workbook.sheetDrawing.instanceId
  recType := 0xF020
  body := List.replicate 16 0 ++ [0xFF, 0x47, 0x49, 0x46, 0x38]
  body_lt := by decide +kernel

def albumEntry : Art.CompleteRecord where
  version := Workbook.sheetEntry.version
  instanceId := albumAnimation.instanceId
  recType := Art.storeEntryType
  body := List.replicate 36 0 ++ albumAnimation.bytes
  body_lt := by decide +kernel

def albumStore : Art.CompleteRecord where
  version := Workbook.sheetStore.version
  instanceId := ⟨2, by decide⟩
  recType := Art.blipStoreType
  body := albumEntry.bytes ++ Workbook.sheetEntry.bytes
  body_lt := by decide +kernel

def albumDrawing : Art.CompleteRecord where
  version := Workbook.sheetDrawing.version
  instanceId := Workbook.sheetDrawing.instanceId
  recType := Art.drawingGroupType
  body := albumStore.bytes
  body_lt := by decide +kernel

def albumCutting : Workbook.Cutting where
  bof := Workbook.sheetBof
  front := [Workbook.sheetOther]
  runs := [⟨⟨albumDrawing.bytes, by decide +kernel⟩, [], [Workbook.sheetOther],
    Workbook.isOther_sheetOther⟩]
  ending := .padding [0, 0] (by decide)
  isBof := Workbook.isBof_sheetBof
  isOther := Workbook.isOther_sheetOther

def album : Container.Miniature :=
  ⟨[("Workbook", albumCutting.bytes)]⟩

theorem isReadable_album : album.IsReadable where
  header := by decide +kernel
  table := by
    unfold Compound.table?
    rw [Compound.Sectors.getWhole?_eq_wholeSlice?]
    decide +kernel
  directory := by
    unfold Compound.directory?
    rw [Compound.Sectors.getWhole?_eq_wholeSlice?]
    decide +kernel
  miniTable := by decide +kernel

theorem holds_album : album.file.Holds "Workbook" albumCutting.bytes := by
  unfold Compound.File.Holds Compound.File.streamBytes? Compound.File.miniSector?
  rw [Compound.Sectors.get_eq_slice]
  decide +kernel

/-- The pictures of the album. -/
def albumPictures : List Picture :=
  [⟨[0x47, 0x49, 0x46, 0x38], .unknown, some "image_0.gif", some "gif", none⟩,
    ⟨[0x50, 0x4E, 0x47, 0x21], .png, some "image_1.png", some "png", none⟩]

theorem pictures_album :
    Container.pictures .xls album.bytes narrowConfig.limits = .ok albumPictures := by
  have hstream : album.file.readStream narrowConfig.limits "Workbook" = .ok albumCutting.bytes :=
    holds_album.readStream (by decide +kernel)
  have hgroup : albumCutting.group = albumDrawing.bytes := by decide +kernel
  have hblips : (Art.blipStorePictures albumDrawing.bytes 0 none narrowConfig.limits).map
      (·.mapIdx Workbook.toPicture) = .ok albumPictures :=
    Result.ok_of_toOption (by decide +kernel)
  have hpictures := albumCutting.pictures_eq isReadable_album.ofBytes_bytes hstream
  rw [hgroup] at hpictures
  exact hpictures.trans hblips

/-- Surroundings that take every document for a workbook and in which no file can be written. -/
def fullShelf : Unit → (request : Request) → request.Answer × Unit
  | _, .mimeType _ => (some DocumentFormat.xls.mimeType, ())
  | _, .hasDerivedFiles _ => (.ok false, ())
  | _, .pathExists _ => (false, ())
  | _, .content document =>
      match document.source with
      | .memory content => (some content, ())
      | .file _ => (none, ())
  | _, .makeDirectory _ => (true, ())
  | _, .writeFile _ _ => (false, ())
  | _, .register _ => (none, ())
  | _, .notify _ => ((), ())
  | _, .addToJob _ => ((), ())

def albumDocument : Document :=
  ⟨3, "album.xls", .memory album.bytes⟩

theorem presents_album :
    Presents albumDocument .xls album.bytes ((extract narrowConfig albumDocument).log fullShelf ()) := by
  have hanswered := answered_log fullShelf (extract narrowConfig albumDocument) ()
  refine ⟨?_, ?_⟩
  · intro mime hmem
    rcases hanswered.exists_state hmem with ⟨_, hmime⟩
    have hknown : DocumentFormat.ofMimeType? DocumentFormat.xls.mimeType = some .xls := by
      decide +kernel
    rw [show mime = some DocumentFormat.xls.mimeType from hmime]
    exact hknown
  · intro bytes hmem
    rcases hanswered.exists_state hmem with ⟨_, hbytes⟩
    exact hbytes

theorem outcome_album :
    ((extract narrowConfig albumDocument).run fullShelf ()).1 = .extracted 0 0 := by
  have hformat : DocumentFormat.ofMimeType? DocumentFormat.xls.mimeType = some .xls := by
    decide +kernel
  have hheld : Container.content .xls album.bytes narrowConfig.limits = .pictures albumPictures :=
    Container.content_eq_pictures_iff.2 ⟨pictures_album, List.cons_ne_nil _ _⟩
  have hmime : fullShelf () (.mimeType albumDocument) = (some DocumentFormat.xls.mimeType, ()) := rfl
  rw [(extract_of_pictures hmime hformat rfl rfl hheld).1]
  rfl

/-- Though none of them can be written, both pictures of the album are asked to be written under
their names. -/
theorem pictures_keep_numbers_album :
    numberedNames albumPictures = ["image_0.gif", "image_1.png"] ∧
      (UniqueNames.empty.claimAll ["image_0.gif", "image_1.png"]).1 =
        ["image_0.gif", "image_1.png"] ∧
      writes ((extract narrowConfig albumDocument).log fullShelf ()) =
        [((sinkOf narrowConfig albumDocument).pathOf "image_0.gif",
            Encoded.encode [0x47, 0x49, 0x46, 0x38]),
          ((sinkOf narrowConfig albumDocument).pathOf "image_1.png",
            Encoded.encode [0x50, 0x4E, 0x47, 0x21])] := by
  have hnames : numberedNames albumPictures = ["image_0.gif", "image_1.png"] := by
    decide +kernel
  rcases pictures_keep_numbers Toolkit.hasPlainExtensions_builtIn (.inl rfl) pictures_album with
    ⟨-, -, -, hclaimed, hwrites⟩
  rw [hnames] at hclaimed hwrites
  refine ⟨hnames, hclaimed, ?_⟩
  have hends := ends_log fullShelf (extract narrowConfig albumDocument) ()
  rcases hwrites narrowConfig albumDocument _ _ rfl hends presents_album with ⟨-, hended⟩ | hfiles
  · -- The outcome is none of those that come before the first picture.
    rw [outcome_album] at hended
    rcases hended with hdone | ⟨fault, hfailed⟩ | hfailed
    · cases hdone
    · cases hfailed
    · cases hfailed
  · exact hfiles

end Extraction
end OfficePictures
