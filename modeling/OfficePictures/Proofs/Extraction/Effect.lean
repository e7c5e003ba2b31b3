import Mathlib.Data.Fintype.Basic
import Mathlib.Data.Fintype.Card
import Mathlib.Data.Fintype.Fin
import Mathlib.Data.Finset.Card
import OfficePictures.Proofs.Config
import OfficePictures.Proofs.Extraction.Files
import OfficePictures.Toolkit.BuiltIn

/-!
# Effect — what storing pictures does, whichever of them fail

Every picture of a document has its own name, file and descriptor, which follow from the list of
pictures alone.  Pictures that cannot be written or are refused by the registrar change nothing
about the others.

* `fileName`, `filePath`, `descriptor` — what a picture is stored as;
* `FailsAt` — which pictures are not written and which are refused, as a log tells;
* `storeAll_effect` — the outcome, what is registered, and the files at the end.
-/

namespace OfficePictures

def Request.descriptor? : Request → Option Descriptor
  | register descriptor => some descriptor
  | _ => none

namespace Extraction

open Script

/-! ## Names, files and descriptors -/

/-- The names of pictures: claimed one after the other for the safe names that are proposed. -/
def fileNames [Toolkit] (pictures : List Picture) : List String :=
  (UniqueNames.empty.claimAll (proposals 0 pictures)).1

theorem length_fileNames [Toolkit] (pictures : List Picture) :
    (fileNames pictures).length = pictures.length := by
  simp [fileNames, UniqueNames.length_claimAll, proposals]

theorem isSafe_fileNames [Toolkit] (pictures : List Picture) :
    ∀ name ∈ fileNames pictures, FileName.IsSafe name.toList := by
  refine UniqueNames.isSafe_claimAll _ ?_
  intro name hmem
  rcases List.mem_map.1 hmem with ⟨entry, -, rfl⟩
  simp only [FileName.sanitize, String.toList_ofList]
  exact FileName.isSafe_clean _

section Pictures

variable [Toolkit] (config : Config) (document : Document) (pictures : List Picture)
  (i : Fin pictures.length)

def sinkOf : Sink :=
  Sink.ofDirectory (outputDirectory config document)

def fileName : String :=
  (fileNames pictures).get (i.cast (length_fileNames pictures).symm)

theorem isSafe_fileName : FileName.IsSafe (fileName pictures i).toList :=
  isSafe_fileNames pictures _ (List.get_mem ..)

def filePath : String :=
  (sinkOf config document).pathOf (fileName pictures i)

/-- What is registered of a picture. -/
def descriptor : Descriptor where
  fileName := fileName pictures i
  casePath :=
    "/" ++ config.relativeDirectory ++ "/" ++ document.uniqueName ++ "/" ++ fileName pictures i
  localPath := filePath config document pictures i
  size := (pictures.get i).data.length
  modified := (pictures.get i).modified.getD 0
  parentId := document.id
  parentName := document.name
  toolName := config.toolName
  digests := ContentDigests.of (pictures.get i).data

/-- What a log tells about failures: its directory is made, the pictures of `unwritten` and no
others cannot be written, and those of `refused` and no others are refused if they are
registered. -/
structure FailsAt (log : List Exchange) (unwritten refused : Finset (Fin pictures.length)) :
    Prop where
  isMade : ∀ made, ⟨.makeDirectory (outputDirectory config document), made⟩ ∈ log → made = true
  isWritten_iff : ∀ i done,
    ⟨.writeFile (filePath config document pictures i) (Encoded.encode (pictures.get i).data),
      done⟩ ∈ log → (done = true ↔ i ∉ unwritten)
  isRegistered_iff : ∀ i file,
    ⟨.register (descriptor config document pictures i), file⟩ ∈ log →
      (file.isSome = true ↔ i ∉ refused)

end Pictures

/-! ## Treated pictures -/

section Treated

variable {config : Config} {document : Document} {pictures : List Picture}

/-- A picture with the name that it gets and what became of it. -/
def treatedAt [Toolkit] (fate : Fin pictures.length → Fate) (i : Fin pictures.length) : Treated :=
  ⟨fileName pictures i, pictures.get i, fate i⟩

theorem eq_map_finRange {α : Type} {n : Nat} {list : List α} (h : list.length = n) :
    list = (List.finRange n).map fun i => list.get (i.cast h.symm) := by
  subst h
  rw [← List.ofFn_eq_map]
  exact (List.ofFn_get list).symm

theorem isSafe_treatedAt [Toolkit] (fate : Fin pictures.length → Fate) :
    ∀ one ∈ (List.finRange pictures.length).map (treatedAt fate),
      FileName.IsSafe one.name.toList := by
  intro one hone
  rcases List.mem_map.1 hone with ⟨i, -, rfl⟩
  exact isSafe_fileName pictures i

theorem nodup_treatedAt [Toolkit] (fate : Fin pictures.length → Fate) :
    (((List.finRange pictures.length).map (treatedAt fate)).map fun one =>
      Text.lower one.name.toList).Nodup := by
  have hfresh : ((fileNames pictures).map fun name => Text.lower name.toList).Nodup :=
    (UniqueNames.claimAll_fresh _ _).1
  rw [eq_map_finRange (length_fileNames pictures), List.map_map] at hfresh
  rw [List.map_map]
  exact hfresh

/-- The treated pictures are those of the list under their names; only what became of them is
open. -/
theorem TreatedAll.eq_map [Toolkit] {front : List Exchange} {treated : List Treated}
    {final : Progress} (h : TreatedAll config document 0 (Progress.start config document) pictures
      treated front final) :
    ∃ fate, treated = (List.finRange pictures.length).map (treatedAt fate) := by
  have hlength : treated.length = pictures.length := by
    rw [← h.pictures_eq, List.length_map]
  refine ⟨fun i => (treated.get (i.cast hlength.symm)).fate, ?_⟩
  refine (eq_map_finRange hlength).trans (List.map_congr_left fun i _ => ?_)
  have hname : (treated.get (i.cast hlength.symm)).name = fileName pictures i := by
    have hnames : treated.map Treated.name = fileNames pictures := h.names_eq
    simp [fileName, ← hnames]
  have hpicture : (treated.get (i.cast hlength.symm)).picture = pictures.get i := by
    simp [← h.pictures_eq]
  rw [treatedAt, ← hname, ← hpicture]

theorem Treated.file?_eq_none {treated : Treated} (h : treated.isWritten = false) :
    treated.file? = none := by
  rcases treated with ⟨name, picture, _ | _ | file⟩
  · rfl
  · rfl
  · cases h

/-- A built configuration registers a picture as it should. -/
theorem descriptorOf_treatedAt [Toolkit] (hconfig : config.IsBuilt)
    (fate : Fin pictures.length → Fate) (i : Fin pictures.length) :
    descriptorOf config document (treatedAt fate i).picture (treatedAt fate i).name
        ((sinkOf config document).pathOf (treatedAt fate i).name) =
      descriptor config document pictures i := by
  simp [descriptorOf, Descriptor.ofPicture, hconfig.pathInCase_eq, descriptor, treatedAt, filePath]

/-! ## What a log tells of them -/

variable {fate : Fin pictures.length → Fate} {log : List Exchange}
  {unwritten refused : Finset (Fin pictures.length)}

theorem FailsAt.isWritten_treatedAt [Toolkit]
    (hfails : FailsAt config document pictures log unwritten refused)
    (hlog : ∀ i, (treatedAt fate i).log config document (sinkOf config document) ⊆ log)
    (i : Fin pictures.length) : (treatedAt fate i).isWritten = true ↔ i ∉ unwritten :=
  hfails.isWritten_iff i _ (hlog i (List.mem_cons_self ..))

theorem FailsAt.isSome_file?_treatedAt [Toolkit] (hconfig : config.IsBuilt)
    (hfails : FailsAt config document pictures log unwritten refused)
    (hlog : ∀ i, (treatedAt fate i).log config document (sinkOf config document) ⊆ log)
    (i : Fin pictures.length) :
    (treatedAt fate i).file?.isSome = true ↔ i ∉ unwritten ∪ refused := by
  have hwritten := hfails.isWritten_treatedAt hlog i
  -- The registrar is only asked about a picture that was written.
  cases hdone : (treatedAt fate i).isWritten with
  | false =>
      have hmem : i ∈ unwritten := by
        simpa [hdone] using hwritten
      simp [Treated.file?_eq_none hdone, hmem]
  | true =>
      have hnotMem : i ∉ unwritten := hwritten.1 hdone
      have hexchange : ⟨.register (descriptor config document pictures i),
          (treatedAt fate i).file?⟩ ∈ log := by
        refine hlog i (List.mem_cons_of_mem _ ?_)
        rw [if_pos hdone, descriptorOf_treatedAt hconfig]
        exact List.mem_cons_self ..
      rw [hfails.isRegistered_iff i _ hexchange]
      simp [hnotMem]

/-- Of the numbers below `n`, as many have a property as are in the set of those that have it. -/
theorem countP_finRange {n : Nat} {p : Fin n → Bool} {failing : Finset (Fin n)}
    (h : ∀ i, p i = true ↔ i ∉ failing) : (List.finRange n).countP p = n - failing.card := by
  have hset : Finset.univ.filter (fun i => p i = true) = failingᶜ := by
    ext i
    simp [h]
  calc
    (List.finRange n).countP p = (Finset.univ.filter fun i => p i = true).card := by
      rw [Finset.card_def, Finset.filter_val, Fin.univ_def, ← Multiset.countP_eq_card_filter,
        Multiset.coe_countP]
      simp
    _ = n - failing.card := by
      rw [hset, Finset.card_compl, Fintype.card_fin]

end Treated

/-! ## What is registered -/

def submissions (log : List Exchange) : List Descriptor :=
  log.filterMap fun exchange => exchange.request.descriptor?

@[simp] theorem submissions_append (front back : List Exchange) :
    submissions (front ++ back) = submissions front ++ submissions back :=
  List.filterMap_append

section Submitted

variable {config : Config} {document : Document} {sink : Sink}

theorem Treated.submissions_log (treated : Treated) :
    submissions (treated.log config document sink) =
      if treated.isWritten then
        [descriptorOf config document treated.picture treated.name (sink.pathOf treated.name)]
      else
        [] := by
  rcases treated with ⟨name, picture, _ | _ | file⟩ <;> rfl

theorem submissions_flatMap_log (treated : List Treated) :
    submissions (treated.flatMap (Treated.log config document sink)) =
      (treated.filter Treated.isWritten).map fun one =>
        descriptorOf config document one.picture one.name (sink.pathOf one.name) := by
  induction treated with
  | nil => rfl
  | cons first treated ih =>
      rw [List.flatMap_cons, submissions_append, Treated.submissions_log, ih]
      cases hfirst : first.isWritten with
      | false => simp [hfirst]
      | true => simp [hfirst]

theorem submissions_opening (pictures : List Picture) (sink : Sink) :
    submissions (if pictures = [] then [] else sink.opening) = [] := by
  split
  · rfl
  · refine List.filterMap_eq_nil_iff.2 ?_
    intro exchange hmem
    rw [Sink.eq_of_mem_opening hmem]
    rfl

theorem submissions_announcement (document : Document) (files : List DerivedFile) :
    submissions (announcement document files) = [] := by
  unfold announcement
  split <;> rfl

end Submitted

/-! ## The effect -/

theorem writesBeside_opening (pictures : List Picture) (sink : Sink) (name : String) :
    WritesBeside sink name (if pictures = [] then [] else sink.opening) := by
  refine writesBeside_of_no_write ?_
  intro exchange hmem path content hwrite
  split at hmem
  · cases hmem
  · rw [Sink.eq_of_mem_opening hmem] at hwrite
    cases hwrite

theorem writesBeside_announcement (document : Document) (files : List DerivedFile) (sink : Sink)
    (name : String) : WritesBeside sink name (announcement document files) := by
  refine writesBeside_of_no_write ?_
  intro exchange hmem path content hwrite
  rcases mem_announcement hmem with hnotify | hadd
  · cases hnotify.symm.trans hwrite
  · cases hadd.symm.trans hwrite

section Effect

variable {σ : Type} {answer : σ → (request : Request) → request.Answer × σ}
  {fileAt : σ → String → Option Bytes} {state : σ} {config : Config} {document : Document}
  {pictures : List Picture} {unwritten refused : Finset (Fin pictures.length)}

/-- If the directory is made, the log tells of all pictures, and the outcome counts them. -/
theorem FailsAt.log_eq [Toolkit] {log : List Exchange} {outcome : Outcome}
    (hfails : FailsAt config document pictures log unwritten refused)
    (hends : Ends (storeAll config document pictures) log outcome) :
    ∃ fate files,
      log = (if pictures = [] then [] else (sinkOf config document).opening) ++
          ((List.finRange pictures.length).map (treatedAt fate)).flatMap
            (Treated.log config document (sinkOf config document)) ++
        announcement document files ∧
      files = ((List.finRange pictures.length).map (treatedAt fate)).filterMap Treated.file? ∧
      outcome = .extracted
        (((List.finRange pictures.length).map (treatedAt fate)).countP Treated.isWritten)
        files.length := by
  rcases storeAll_ends hends with ⟨rfl, -⟩ | ⟨treated, final, front, hall, rfl, rfl⟩
  · -- The log tells of a directory that cannot be made.
    have hmade := hfails.isMade false (List.mem_cons_self ..)
    cases hmade
  · rcases hall.eq_map with ⟨fate, rfl⟩
    have hwritten := hall.written_eq
    simp only [Progress.start, Nat.zero_add] at hwritten
    refine ⟨fate, final.files, ?_, hall.files_eq, ?_⟩
    · rw [hall.log_eq]
      rfl
    · rw [hwritten]

/-- What storing the pictures of a document does if its directory can be made, whichever pictures
are not written or refused: the outcome counts them; exactly the written ones are registered, in
their order, with the descriptors that follow from the list of pictures; they are all found at the
end, each in its file; and no file of another name has changed. -/
theorem storeAll_effect [Toolkit] (hconfig : config.IsBuilt)
    (hkeeps : KeepsFiles answer fileAt (sinkOf config document))
    (hfails : FailsAt config document pictures
      ((storeAll config document pictures).log answer state) unwritten refused) :
    let final := ((storeAll config document pictures).run answer state).2
    ((storeAll config document pictures).run answer state).1 =
        .extracted (pictures.length - unwritten.card)
          (pictures.length - (unwritten ∪ refused).card) ∧
      submissions ((storeAll config document pictures).log answer state) =
        ((List.finRange pictures.length).filter (· ∉ unwritten)).map
          (descriptor config document pictures) ∧
      (∀ i, i ∉ unwritten → ∃ file, fileAt final (filePath config document pictures i) = some file ∧
        Encoded.decode? file = some (pictures.get i).data) ∧
      ∀ other : String, FileName.IsSafe other.toList →
        (∀ i, Text.lower other.toList ≠ Text.lower (fileName pictures i).toList) →
        fileAt final ((sinkOf config document).pathOf other) =
          fileAt state ((sinkOf config document).pathOf other) := by
  intro final
  rcases hfails.log_eq (ends_log answer _ state) with ⟨fate, files, hlog, hfiles, houtcome⟩
  -- The log tells of every picture, whatever became of it.
  have hmem : ∀ i, (treatedAt fate i).log config document (sinkOf config document) ⊆
      (storeAll config document pictures).log answer state := by
    intro i exchange hexchange
    rw [hlog]
    refine List.mem_append_left _ (List.mem_append_right _ (List.mem_flatMap.2 ⟨_, ?_, hexchange⟩))
    exact List.mem_map_of_mem (List.mem_finRange i)
  have hwritten := hfails.isWritten_treatedAt hmem
  have hregistered := hfails.isSome_file?_treatedAt hconfig hmem
  have hanswered := answered_log answer (storeAll config document pictures) state
  rw [hlog] at hanswered
  refine ⟨?_, ?_, ?_, ?_⟩
  · -- The outcome counts what was written and what became a file.
    have hwrittenCount : (List.finRange pictures.length).countP
        (Treated.isWritten ∘ treatedAt fate) = pictures.length - unwritten.card :=
      countP_finRange hwritten
    have hregisteredCount : (List.finRange pictures.length).countP
        ((fun one : Treated => one.file?.isSome) ∘ treatedAt fate) =
          pictures.length - (unwritten ∪ refused).card :=
      countP_finRange hregistered
    rw [houtcome, hfiles, List.length_filterMap_eq_countP, List.countP_map, List.countP_map,
      hwrittenCount, hregisteredCount]
  · have hfilter : (List.finRange pictures.length).filter (Treated.isWritten ∘ treatedAt fate) =
        (List.finRange pictures.length).filter (· ∉ unwritten) := by
      refine List.filter_congr fun i _ => ?_
      exact Bool.eq_iff_iff.2 (by simpa using hwritten i)
    rw [hlog, submissions_append, submissions_append, submissions_opening, submissions_flatMap_log,
      submissions_announcement, List.filter_map, List.map_map, hfilter, List.nil_append,
      List.append_nil]
    exact List.map_congr_left fun i _ => descriptorOf_treatedAt hconfig fate i
  · -- Its write stores the file, no later write is to its name, and neither is the announcement.
    intro i hi
    refine ⟨Encoded.encode (pictures.get i).data, ?_, Encoded.decode?_encode _⟩
    rcases answered_append.1 hanswered with ⟨last, hpictures, hannounced⟩
    rcases answered_append.1 hpictures with ⟨first, -, htreated⟩
    rw [filePath, Answered.fileAt_eq hkeeps (isSafe_fileName pictures i) hannounced
      (writesBeside_announcement _ _ _ _)]
    exact Answered.fileAt_treated hkeeps (isSafe_treatedAt fate) (nodup_treatedAt fate) htreated
      (treatedAt fate i) (List.mem_map_of_mem (List.mem_finRange i)) ((hwritten i).2 hi)
  · intro other hother hlower
    refine Answered.fileAt_eq hkeeps hother hanswered ?_
    refine writesBeside_append.2 ⟨writesBeside_append.2 ⟨writesBeside_opening _ _ _, ?_⟩,
      writesBeside_announcement _ _ _ _⟩
    refine Treated.writesBeside_flatMap_log (isSafe_treatedAt fate) ?_
    intro one hone
    rcases List.mem_map.1 hone with ⟨i, -, rfl⟩
    exact (hlower i).symm

end Effect

/-! ## A narrow disk -/

/-- Surroundings with files by their paths, where no file may be longer than 40 bytes and no
picture of two bytes is registered. -/
def narrow (files : String → Option Bytes) :
    (request : Request) → request.Answer × (String → Option Bytes)
  | .mimeType _ => (none, files)
  | .hasDerivedFiles _ => (.ok false, files)
  | .pathExists _ => (false, files)
  | .content _ => (none, files)
  | .makeDirectory _ => (true, files)
  | .writeFile path content =>
      if content.length ≤ 40 then
        (true, fun other => if other = path then some content else files other)
      else
        (false, files)
  | .register descriptor =>
      (if descriptor.size = 2 then none else some ⟨0, descriptor.fileName, "", 0⟩, files)
  | .notify _ => ((), files)
  | .addToJob _ => ((), files)

theorem keepsFiles_narrow (sink : Sink) : KeepsFiles narrow (fun files path => files path) sink := by
  refine ⟨?_, ?_, ?_⟩
  · intro files name content _ hdone
    by_cases hfits : content.length ≤ 40
    · simp [narrow, hfits]
    · simp [narrow, hfits] at hdone
  · intro files name other content hname hother hlower
    by_cases hfits : content.length ≤ 40
    · have hne : sink.pathOf other ≠ sink.pathOf name := by
        intro hpath
        exact hlower (by rw [Sink.pathOf_inj hother hname hpath])
      simp [narrow, hfits, hne]
    · simp [narrow, hfits]
  · intro files request name hwrite _
    cases request with
    | writeFile path content => exact absurd rfl (hwrite path content)
    | _ => rfl

theorem narrow_writeFile (files : String → Option Bytes) (path : String) (content : Bytes) :
    (narrow files (.writeFile path content)).1 = decide (content.length ≤ 40) := by
  by_cases hfits : content.length ≤ 40 <;> simp [narrow, hfits]

theorem narrow_register (files : String → Option Bytes) (descriptor : Descriptor) :
    (narrow files (.register descriptor)).1.isSome = decide (descriptor.size ≠ 2) := by
  by_cases hsize : descriptor.size = 2 <;> simp [narrow, hsize]

/-- Three pictures, the second of which is too long and the third of which is refused. -/
def narrowPictures : List Picture :=
  [⟨[1, 2, 3], .png, some "a.png", none, some 5⟩, ⟨List.replicate 9 0, .png, some "A.PNG", none, none⟩,
    ⟨[4, 5], .png, some "a.png", none, none⟩]

/-- A directory that is written with backslashes, and a document. -/
def narrowConfig : Config :=
  Config.ofParts "/m" "Module\\Pictures" none none none

def narrowDocument : Document :=
  ⟨7, "a.xls", .memory []⟩

theorem storeAll_effect_narrow :
    let final := ((storeAll narrowConfig narrowDocument narrowPictures).run narrow
      fun _ => none).2
    ((storeAll narrowConfig narrowDocument narrowPictures).run narrow fun _ => none).1 =
        .extracted 2 1 ∧
      submissions ((storeAll narrowConfig narrowDocument narrowPictures).log narrow fun _ => none) =
        [descriptor narrowConfig narrowDocument narrowPictures ⟨0, by decide⟩,
          descriptor narrowConfig narrowDocument narrowPictures ⟨2, by decide⟩] ∧
      ∃ file, final (filePath narrowConfig narrowDocument narrowPictures ⟨2, by decide⟩) = some file ∧
        Encoded.decode? file = some [4, 5] := by
  intro final
  have hconfig : narrowConfig.IsBuilt := .made (by decide)
  have hanswered := answered_log narrow (storeAll narrowConfig narrowDocument narrowPictures)
    fun _ => none
  have hfits : ∀ i, (Encoded.encode (narrowPictures.get i).data).length ≤ 40 ↔
      i ∉ ({⟨1, by decide⟩} : Finset (Fin narrowPictures.length)) := by
    decide
  have hsize : ∀ i, (narrowPictures.get i).data.length ≠ 2 ↔
      i ∉ ({⟨2, by decide⟩} : Finset (Fin narrowPictures.length)) := by
    decide
  -- What is answered does not depend on the files, so any state will do that gave the answer.
  have hfails : FailsAt narrowConfig narrowDocument narrowPictures
      ((storeAll narrowConfig narrowDocument narrowPictures).log narrow fun _ => none)
      {⟨1, by decide⟩} {⟨2, by decide⟩} := by
    refine ⟨?_, ?_, ?_⟩
    · intro made hmem
      rcases hanswered.exists_state hmem with ⟨files, hmade⟩
      exact hmade
    · intro i done hmem
      rcases hanswered.exists_state hmem with ⟨files, hanswer⟩
      have hdone : done = decide ((Encoded.encode (narrowPictures.get i).data).length ≤ 40) :=
        hanswer.trans (narrow_writeFile files _ _)
      rw [← hfits i, hdone, decide_eq_true_iff]
    · intro i file hmem
      rcases hanswered.exists_state hmem with ⟨files, hanswer⟩
      have hfile : file.isSome = decide ((narrowPictures.get i).data.length ≠ 2) :=
        (congrArg Option.isSome hanswer).trans (narrow_register files _)
      rw [← hsize i, hfile, decide_eq_true_iff]
  rcases storeAll_effect hconfig (keepsFiles_narrow _) hfails with ⟨houtcome, hsubmitted, hwritten, -⟩
  refine ⟨houtcome, hsubmitted, hwritten ⟨2, by decide⟩ (by decide)⟩

end Extraction
end OfficePictures
