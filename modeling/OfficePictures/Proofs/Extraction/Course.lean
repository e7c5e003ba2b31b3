import OfficePictures.Extraction
import OfficePictures.Proofs.Script.Log

/-!
# Course — how an extraction can go

Everything that a part of an extraction can do, as the logs that it can have and what it then ends
with.
-/

namespace OfficePictures

open Script

/-! ## The directory -/

namespace Sink

def prepared (sink : Sink) : Sink :=
  { sink with isPrepared := true }

/-- The exchanges in front of the first file that is written. -/
def opening (sink : Sink) : List Exchange :=
  if sink.isPrepared then [] else [⟨.makeDirectory sink.directory, true⟩]

theorem eq_of_mem_opening {sink : Sink} {exchange : Exchange} (h : exchange ∈ sink.opening) :
    exchange = ⟨.makeDirectory sink.directory, true⟩ := by
  unfold opening at h
  split at h
  · cases h
  · exact List.mem_singleton.1 h

/-- A sink makes its directory, unless it did before, or finds that it cannot. -/
theorem prepare_ends {sink : Sink} {log : List Exchange} {result : Except SinkFault Unit × Sink}
    (h : Ends sink.prepare log result) :
    (sink.isPrepared = false ∧ log = [⟨.makeDirectory sink.directory, false⟩] ∧
        result = (.error .directoryNotMade, sink)) ∨
      (log = sink.opening ∧ result = (.ok (), sink.prepared)) := by
  unfold prepare at h
  -- A sink that made its directory asks nothing; otherwise the answer decides.
  rcases sink with ⟨directory, isPrepared⟩
  cases isPrepared with
  | true =>
      rcases ends_pure.1 h with ⟨rfl, rfl⟩
      right
      exact ⟨rfl, rfl⟩
  | false =>
      rcases ends_request_bind.1 h with ⟨made, rest, hrest, rfl⟩
      cases made with
      | true =>
          rcases ends_pure.1 hrest with ⟨rfl, rfl⟩
          right
          exact ⟨rfl, rfl⟩
      | false =>
          rcases ends_pure.1 hrest with ⟨rfl, rfl⟩
          left
          exact ⟨rfl, rfl, rfl⟩

/-- A picture is not written because there is no directory, or for another reason, or it is. -/
theorem write_ends {sink : Sink} {name : String} {content : Bytes} {log : List Exchange}
    {result : Except SinkFault String × Sink} (h : Ends (sink.write name content) log result) :
    (sink.isPrepared = false ∧ log = [⟨.makeDirectory sink.directory, false⟩] ∧
        result = (.error .directoryNotMade, sink)) ∨
      (log = sink.opening ++ [⟨.writeFile (sink.pathOf name) (Encoded.encode content), false⟩] ∧
        result = (.error .fileNotWritten, sink.prepared)) ∨
      (log = sink.opening ++ [⟨.writeFile (sink.pathOf name) (Encoded.encode content), true⟩] ∧
        result = (.ok (sink.pathOf name), sink.prepared)) := by
  unfold write at h
  rcases ends_bind.1 h with ⟨_, front, back, hprepare, hwrite, rfl⟩
  rcases prepare_ends hprepare with ⟨hprepared, rfl, rfl⟩ | ⟨rfl, rfl⟩
  · rcases ends_pure.1 hwrite with ⟨rfl, rfl⟩
    left
    exact ⟨hprepared, rfl, rfl⟩
  · right
    rcases ends_request_bind.1 hwrite with ⟨done, rest, hrest, rfl⟩
    cases done with
    | false =>
        rcases ends_pure.1 hrest with ⟨rfl, rfl⟩
        left
        exact ⟨rfl, rfl⟩
    | true =>
        rcases ends_pure.1 hrest with ⟨rfl, rfl⟩
        right
        exact ⟨rfl, rfl⟩

end Sink

namespace Extraction

variable {config : Config} {document : Document}

/-! ## Pictures -/

/-- What became of a picture. -/
inductive Fate
  | notWritten
  | refused
  | registered (file : DerivedFile)

/-- A picture that was treated, and the name that it got. -/
structure Treated where
  name : String
  picture : Picture
  fate : Fate

namespace Treated

def isWritten (treated : Treated) : Bool :=
  match treated.fate with
  | .notWritten => false
  | _ => true

def file? (treated : Treated) : Option DerivedFile :=
  match treated.fate with
  | .registered file => some file
  | _ => none

def log (config : Config) (document : Document) (sink : Sink) (treated : Treated) : List Exchange :=
  let path := sink.pathOf treated.name
  ⟨.writeFile path (Encoded.encode treated.picture.data), treated.isWritten⟩ ::
    if treated.isWritten then
      [⟨.register (descriptorOf config document treated.picture treated.name path), treated.file?⟩]
    else
      []

end Treated

/-- The progress behind a picture. -/
def Progress.after (progress : Progress) (names : UniqueNames) (treated : Treated) : Progress where
  sink := progress.sink.prepared
  names
  files := progress.files ++ treated.file?.toList
  written := progress.written + treated.isWritten.toNat

theorem storePicture_ends [Toolkit] {number : Nat} {picture : Picture} {progress : Progress}
    {log : List Exchange} {result : Option Progress}
    (h : Ends (storePicture config document number picture progress) log result) :
    (progress.sink.isPrepared = false ∧
        log = [⟨.makeDirectory progress.sink.directory, false⟩] ∧ result = none) ∨
      ∃ (treated : Treated) (names : UniqueNames),
        treated.picture = picture ∧
          progress.names.claim (FileName.sanitize (picture.proposedName number)) =
            (treated.name, names) ∧
          log = progress.sink.opening ++ treated.log config document progress.sink ∧
          result = some (progress.after names treated) := by
  unfold storePicture at h
  -- The name is claimed before anything is asked, so it does not depend on the answers.
  generalize progress.names.claim (FileName.sanitize (picture.proposedName number)) = claimed at h ⊢
  rcases claimed with ⟨name, names⟩
  rcases ends_bind.1 h with ⟨_, front, back, hwrite, hrest, rfl⟩
  rcases Sink.write_ends hwrite with ⟨hprepared, rfl, rfl⟩ | ⟨rfl, rfl⟩ | ⟨rfl, rfl⟩
  · rcases ends_pure.1 hrest with ⟨rfl, rfl⟩
    left
    exact ⟨hprepared, rfl, rfl⟩
  · rcases ends_pure.1 hrest with ⟨rfl, rfl⟩
    right
    refine ⟨⟨name, picture, .notWritten⟩, names, rfl, rfl, ?_, ?_⟩
    · simp [Treated.log, Treated.isWritten]
    · simp [Progress.after, Treated.file?, Treated.isWritten]
  · rcases ends_request_bind.1 hrest with ⟨file, rest, hdone, rfl⟩
    rcases ends_pure.1 hdone with ⟨rfl, rfl⟩
    right
    cases file with
    | none =>
        refine ⟨⟨name, picture, .refused⟩, names, rfl, rfl, ?_, rfl⟩
        simp [Treated.log, Treated.isWritten, Treated.file?]
    | some file =>
        refine ⟨⟨name, picture, .registered file⟩, names, rfl, rfl, ?_, rfl⟩
        simp [Treated.log, Treated.isWritten, Treated.file?]

/-- The safe names proposed for pictures, the first of which has the given number. -/
def proposals [Toolkit] (number : Nat) (pictures : List Picture) : List String :=
  (pictures.zipIdx number).map fun (picture, number) =>
    FileName.sanitize (picture.proposedName number)

/-- The pictures that were treated, one after the other, and the progress behind them. -/
structure TreatedAll [Toolkit] (config : Config) (document : Document) (number : Nat)
    (progress : Progress) (pictures : List Picture) (treated : List Treated)
    (log : List Exchange) (final : Progress) : Prop where
  pictures_eq : treated.map Treated.picture = pictures
  names_eq : treated.map Treated.name = (progress.names.claimAll (proposals number pictures)).1
  log_eq : log = (if pictures = [] then [] else progress.sink.opening) ++
    treated.flatMap (Treated.log config document progress.sink)
  files_eq : final.files = progress.files ++ treated.filterMap Treated.file?
  written_eq : final.written = progress.written + treated.countP Treated.isWritten

/-- The first picture finds no directory to be written to, or all pictures are treated. -/
theorem storePictures_ends [Toolkit] {pictures : List Picture} {number : Nat} {progress : Progress}
    {log : List Exchange} {result : Option Progress}
    (h : Ends (storePictures config document number progress pictures) log result) :
    (progress.sink.isPrepared = false ∧
        log = [⟨.makeDirectory progress.sink.directory, false⟩] ∧ result = none) ∨
      ∃ treated final, result = some final ∧
        TreatedAll config document number progress pictures treated log final := by
  induction pictures generalizing number progress log with
  | nil =>
      rcases ends_pure.1 h with ⟨rfl, rfl⟩
      right
      exact ⟨[], progress, rfl, rfl, rfl, rfl, by simp, by simp⟩
  | cons picture pictures ih =>
      rcases ends_bind.1 h with ⟨_, front, back, hfirst, hrest, rfl⟩
      rcases storePicture_ends hfirst with
        ⟨hprepared, rfl, rfl⟩ | ⟨first, names, rfl, hname, rfl, rfl⟩
      · rcases ends_pure.1 hrest with ⟨rfl, rfl⟩
        left
        exact ⟨hprepared, rfl, rfl⟩
      · right
        -- The directory is made by now, so no later picture finds it missing.
        rcases ih hrest with ⟨hprepared, -, -⟩ | ⟨treated, final, rfl, hall⟩
        · cases hprepared
        · refine ⟨first :: treated, final, rfl, ?_, ?_, ?_, ?_, ?_⟩
          · rw [List.map_cons, hall.pictures_eq]
          · have hnames := hall.names_eq
            simp only [Progress.after] at hnames
            simp [proposals, UniqueNames.claimAll, hname, hnames]
          · have hopening : (if pictures = [] then [] else (progress.after names first).sink.opening) =
                [] := by
              split <;> rfl
            rw [hall.log_eq, hopening, if_neg (List.cons_ne_nil _ _), List.flatMap_cons,
              List.nil_append, List.append_assoc]
            rfl
          · rw [hall.files_eq]
            cases hfile : first.file? with
            | none => simp [Progress.after, hfile]
            | some file => simp [Progress.after, hfile]
          · rw [hall.written_eq, List.countP_cons]
            cases hwritten : first.isWritten with
            | false => simp [Progress.after, hwritten]
            | true => simp [Progress.after, hwritten, Nat.add_assoc, Nat.add_comm 1]

/-! ## All of them -/

def announcement (document : Document) (files : List DerivedFile) : List Exchange :=
  if files = [] then [] else [⟨.notify document, ()⟩, ⟨.addToJob files, ()⟩]

theorem mem_announcement {files : List DerivedFile} {exchange : Exchange}
    (h : exchange ∈ announcement document files) :
    exchange.request = .notify document ∨ exchange.request = .addToJob files := by
  unfold announcement at h
  split at h
  · cases h
  · simp only [List.mem_cons, List.not_mem_nil, or_false] at h
    rcases h with rfl | rfl
    · left
      rfl
    · right
      rfl

theorem announce_ends {files : List DerivedFile} {log : List Exchange} {result : Unit}
    (h : Ends (announce document files) log result) : log = announcement document files := by
  unfold announce at h
  unfold announcement
  by_cases hfiles : files = []
  · rw [if_neg (fun hne => hne hfiles), ends_pure] at h
    rw [if_pos hfiles, h.1]
  · rw [if_pos hfiles, ends_request_bind] at h
    rcases h with ⟨_, rest, hrest, rfl⟩
    rw [if_neg hfiles, ends_request.1 hrest]

/-- The pictures of a document, there being some: no directory can be made, and nothing else
happens; or all are treated, and those that were registered are announced. -/
theorem storeAll_ends [Toolkit] {pictures : List Picture} {log : List Exchange} {outcome : Outcome}
    (h : Ends (storeAll config document pictures) log outcome) :
    (log = [⟨.makeDirectory (outputDirectory config document), false⟩] ∧
        outcome = .outputFailed) ∨
      ∃ treated final front,
        TreatedAll config document 0 (Progress.start config document) pictures treated front final ∧
          log = front ++ announcement document final.files ∧
          outcome = .extracted final.written final.files.length := by
  rcases ends_bind.1 h with ⟨_, front, back, hpictures, hrest, rfl⟩
  rcases storePictures_ends hpictures with ⟨-, rfl, rfl⟩ | ⟨treated, final, rfl, hall⟩
  · rcases ends_pure.1 hrest with ⟨rfl, rfl⟩
    left
    exact ⟨rfl, rfl⟩
  · rcases ends_bind.1 hrest with ⟨_, middle, last, hannounce, hdone, rfl⟩
    rcases ends_pure.1 hdone with ⟨rfl, rfl⟩
    right
    refine ⟨treated, final, front, hall, ?_, rfl⟩
    rw [announce_ends hannounce, List.append_nil]

/-! ## Documents -/

/-- The answers to whether a document was treated before, if it was not. -/
inductive Untreated (config : Config) (document : Document) : List Exchange → Prop
  | noFiles : Untreated config document [⟨.hasDerivedFiles document, .ok false⟩]
  | noDirectory :
      Untreated config document
        [⟨.hasDerivedFiles document, .ok true⟩,
          ⟨.pathExists (outputDirectory config document), false⟩]

/-- What a document holds that is opened with the given content, or cannot be opened. -/
def heldBy [Toolkit] (config : Config) (format : DocumentFormat) : Option Bytes → Container.Content
  | none => .unreadable .io
  | some bytes => Container.content format bytes config.limits

/-- How the extraction from a document can go. -/
inductive Course [Toolkit] (config : Config) (document : Document) : List Exchange → Outcome → Prop
  | unsupported {mime : Option String} (hformat : mime.bind DocumentFormat.ofMimeType? = none) :
      Course config document [⟨.mimeType document, mime⟩] .unsupported
  | lookupFailed {mime : Option String} {format : DocumentFormat} (fault : LookupFault)
      (hformat : mime.bind DocumentFormat.ofMimeType? = some format) :
      Course config document
        [⟨.mimeType document, mime⟩, ⟨.hasDerivedFiles document, .error fault⟩]
        (.lookupFailed fault)
  | alreadyDone {mime : Option String} {format : DocumentFormat}
      (hformat : mime.bind DocumentFormat.ofMimeType? = some format) :
      Course config document
        [⟨.mimeType document, mime⟩, ⟨.hasDerivedFiles document, .ok true⟩,
          ⟨.pathExists (outputDirectory config document), true⟩]
        .alreadyDone
  | noPictures {mime : Option String} {format : DocumentFormat} {checks : List Exchange}
      {content : Option Bytes} (hformat : mime.bind DocumentFormat.ofMimeType? = some format)
      (hchecks : Untreated config document checks) (hheld : heldBy config format content = .empty) :
      Course config document
        (⟨.mimeType document, mime⟩ :: checks ++ [⟨.content document, content⟩]) .noPictures
  | unreadable {mime : Option String} {format : DocumentFormat} {checks : List Exchange}
      {content : Option Bytes} {fault : Fault}
      (hformat : mime.bind DocumentFormat.ofMimeType? = some format)
      (hchecks : Untreated config document checks)
      (hheld : heldBy config format content = .unreadable fault) :
      Course config document
        (⟨.mimeType document, mime⟩ :: checks ++ [⟨.content document, content⟩]) (.unreadable fault)
  | stored {mime : Option String} {format : DocumentFormat} {checks : List Exchange}
      {content : Option Bytes} {pictures : List Picture} {log : List Exchange} {outcome : Outcome}
      (hformat : mime.bind DocumentFormat.ofMimeType? = some format)
      (hchecks : Untreated config document checks)
      (hheld : heldBy config format content = .pictures pictures)
      (hlog : Ends (storeAll config document pictures) log outcome) :
      Course config document
        (⟨.mimeType document, mime⟩ :: checks ++ [⟨.content document, content⟩] ++ log) outcome

theorem isDone_ends {log : List Exchange} {result : Except LookupFault Bool}
    (h : Ends (isDone config document) log result) :
    (∃ fault, log = [⟨.hasDerivedFiles document, .error fault⟩] ∧ result = .error fault) ∨
      (log = [⟨.hasDerivedFiles document, .ok true⟩,
          ⟨.pathExists (outputDirectory config document), true⟩] ∧ result = .ok true) ∨
      (Untreated config document log ∧ result = .ok false) := by
  rcases ends_request_bind.1 h with ⟨reply, rest, hrest, rfl⟩
  -- Only where there are derived files the disk is asked, too.
  rcases reply with fault | _ | _
  · rcases ends_pure.1 hrest with ⟨rfl, rfl⟩
    left
    exact ⟨fault, rfl, rfl⟩
  · rcases ends_pure.1 hrest with ⟨rfl, rfl⟩
    right; right
    exact ⟨.noFiles, rfl⟩
  · rcases ends_request_bind.1 hrest with ⟨isThere, last, hlast, rfl⟩
    rcases ends_pure.1 hlast with ⟨rfl, rfl⟩
    cases isThere with
    | false =>
        right; right
        exact ⟨.noDirectory, rfl⟩
    | true =>
        right; left
        exact ⟨rfl, rfl⟩

theorem contentOf_ends [Toolkit] {format : DocumentFormat} {log : List Exchange}
    {result : Container.Content} (h : Ends (contentOf config document format) log result) :
    ∃ content, log = [⟨.content document, content⟩] ∧ result = heldBy config format content := by
  rcases ends_request_bind.1 h with ⟨content, rest, hrest, rfl⟩
  cases content with
  | none =>
      rcases ends_pure.1 hrest with ⟨rfl, rfl⟩
      exact ⟨none, rfl, rfl⟩
  | some bytes =>
      rcases ends_pure.1 hrest with ⟨rfl, rfl⟩
      exact ⟨some bytes, rfl, rfl⟩

theorem extract_ends [Toolkit] {log : List Exchange} {outcome : Outcome}
    (h : Ends (extract config document) log outcome) : Course config document log outcome := by
  rcases ends_bind.1 h with ⟨_, front, back, hformat, hrest, rfl⟩
  rcases ends_request_bind.1 hformat with ⟨mime, _, hmime, rfl⟩
  rcases ends_pure.1 hmime with ⟨rfl, rfl⟩
  cases hbind : mime.bind DocumentFormat.ofMimeType? with
  | none =>
      rw [hbind] at hrest
      rcases ends_pure.1 hrest with ⟨rfl, rfl⟩
      exact .unsupported hbind
  | some format =>
      rw [hbind] at hrest
      rcases ends_bind.1 hrest with ⟨_, checks, later, hdone, hlater, rfl⟩
      rcases isDone_ends hdone with ⟨fault, rfl, rfl⟩ | ⟨rfl, rfl⟩ | ⟨hchecks, rfl⟩
      · rcases ends_pure.1 hlater with ⟨rfl, rfl⟩
        exact .lookupFailed fault hbind
      · rcases ends_pure.1 hlater with ⟨rfl, rfl⟩
        exact .alreadyDone hbind
      · -- Only here the content is opened.
        rcases ends_bind.1 hlater with ⟨held, _, last, hcontent, hlast, rfl⟩
        rcases contentOf_ends hcontent with ⟨content, rfl, hheld⟩
        cases held with
        | empty =>
            rcases ends_pure.1 hlast with ⟨rfl, rfl⟩
            exact .noPictures hbind hchecks hheld.symm
        | unreadable fault =>
            rcases ends_pure.1 hlast with ⟨rfl, rfl⟩
            exact .unreadable hbind hchecks hheld.symm
        | pictures list =>
            have hcourse := Course.stored hbind hchecks hheld.symm hlast
            simpa using hcourse

/-- The pictures of a document are stored if its type is known, no files come from it yet and its
content can be read. -/
theorem extract_of_pictures [Toolkit] {σ : Type}
    {answer : σ → (request : Request) → request.Answer × σ}
    {mime : String} {format : DocumentFormat} {bytes : Bytes} {pictures : List Picture}
    {state typed looked opened : σ}
    (hmime : answer state (.mimeType document) = (some mime, typed))
    (hformat : DocumentFormat.ofMimeType? mime = some format)
    (hderived : answer typed (.hasDerivedFiles document) = (.ok false, looked))
    (hbytes : answer looked (.content document) = (some bytes, opened))
    (hpictures : Container.content format bytes config.limits = .pictures pictures) :
    (extract config document).run answer state =
        (storeAll config document pictures).run answer opened ∧
      (extract config document).log answer state =
        [⟨.mimeType document, some mime⟩, ⟨.hasDerivedFiles document, .ok false⟩,
          ⟨.content document, some bytes⟩] ++
          (storeAll config document pictures).log answer opened := by
  simp only [extract, format?, isDone, contentOf, Bind.bind, Pure.pure, andThen, request, run,
    Script.log, hmime, hderived, hbytes, Option.bind, hformat, hpictures, List.cons_append,
    List.nil_append, and_self]

end Extraction

end OfficePictures
