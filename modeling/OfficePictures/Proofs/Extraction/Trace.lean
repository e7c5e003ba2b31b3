import OfficePictures.Proofs.Extraction.Once

/-!
# Trace — what is left by an extraction that takes nothing out

Most outcomes say that nothing was taken out of a document.  Such an extraction has only asked
questions, unless its directory could not be made; and that is found at the first picture, before
anything was written, registered or announced.

* `Request.isStoring` — the requests that write, register or announce;
* `storePictures_isPrepared` — once a picture was treated, the directory is there for all others;
* `Answered.view_eq` — what every request of a log leaves as it is, the log does;
* `extract_leaves_no_trace` — the log of such an extraction, and what it leaves of any state.
-/

namespace OfficePictures

/-- Whether something is written, registered or announced. -/
def Request.isStoring : Request → Bool
  | writeFile _ _ | register _ | notify _ | addToJob _ => true
  | _ => false

theorem Request.isStoring_of_isQuery {request : Request} (h : request.isQuery = true) :
    request.isStoring = false := by
  cases request <;> first | rfl | cases h

namespace Extraction

open Script

/-- Whether the pictures of a document were treated. -/
def Outcome.isExtracted : Outcome → Bool
  | extracted _ _ => true
  | _ => false

variable {config : Config} {document : Document}

/-! ## The first picture -/

theorem storePictures_isPrepared [Toolkit] {pictures : List Picture} {number : Nat}
    {progress final : Progress} {log : List Exchange}
    (h : Ends (storePictures config document number progress pictures) log (some final))
    (hprepared : pictures ≠ [] ∨ progress.sink.isPrepared = true) :
    final.sink.isPrepared = true := by
  induction pictures generalizing number progress log with
  | nil =>
      rcases ends_pure.1 h with ⟨-, hfinal⟩
      cases hfinal
      exact hprepared.resolve_left (fun hne => hne rfl)
  | cons picture pictures ih =>
      rcases ends_bind.1 h with ⟨_, front, back, hfirst, hrest, -⟩
      rcases storePicture_ends hfirst with ⟨-, -, rfl⟩ | ⟨first, names, -, -, -, rfl⟩
      · rcases ends_pure.1 hrest with ⟨-, hfinal⟩
        cases hfinal
      · -- The first picture leaves a sink that made its directory, so it is made for the others.
        exact ih hrest (.inr rfl)

/-- Behind the first picture, no picture finds that there is no directory. -/
theorem storePictures_after_first [Toolkit] {front back : List Picture} {number : Nat}
    {progress middle : Progress} {log later : List Exchange} {result : Option Progress}
    (hne : front ≠ [])
    (hfront : Ends (storePictures config document number progress front) log (some middle))
    (hback : Ends (storePictures config document (number + front.length) middle back) later
      result) : ∃ final, result = some final := by
  have hprepared : middle.sink.isPrepared = true := storePictures_isPrepared hfront (.inl hne)
  rcases storePictures_ends hback with ⟨hunprepared, -, -⟩ | ⟨treated, final, hresult, -⟩
  · cases hprepared.symm.trans hunprepared
  · exact ⟨final, hresult⟩

/-! ## What a log leaves -/

section Views

variable {σ δ : Type} {answer : σ → (request : Request) → request.Answer × σ} {view : σ → δ}
  {state final : σ} {log : List Exchange}

/-- A log leaves as it is what each of its requests leaves as it is. -/
theorem Answered.view_eq {keeps : Request → Prop}
    (hview : ∀ state request, keeps request → view (answer state request).2 = view state)
    (h : Answered answer state log final) (hlog : ∀ exchange ∈ log, keeps exchange.request) :
    view final = view state := by
  induction h with
  | nil state => rfl
  | @cons state final request log hanswered ih =>
      rcases List.forall_mem_cons.1 hlog with ⟨hfirst, hrest⟩
      calc
        view final = view (answer state request).2 := ih hrest
        _ = view state := hview state request hfirst

end Views

/-! ## Outcomes without pictures -/

/-- An extraction that takes nothing out only asks questions; or it has found pictures, asked for
the directory that the first of them goes to, and ends since that cannot be made. -/
theorem Course.quiet_or_outputFailed [Toolkit] {log : List Exchange} {outcome : Outcome}
    (h : Course config document log outcome) (houtcome : outcome.isExtracted = false) :
    (outcome ≠ .outputFailed ∧ IsQuiet log) ∨
      outcome = .outputFailed ∧ ∃ front format content first rest,
        IsQuiet front ∧ heldBy config format content = .pictures (first :: rest) ∧
          log = front ++ [⟨.content document, content⟩,
            ⟨.makeDirectory (outputDirectory config document), false⟩] := by
  cases h with
  | unsupported _ => exact .inl ⟨by simp, by simp [Request.isQuery]⟩
  | lookupFailed _ _ => exact .inl ⟨by simp, by simp [Request.isQuery]⟩
  | alreadyDone _ => exact .inl ⟨by simp, by simp [Request.isQuery]⟩
  | noPictures _ hchecks _ => exact .inl ⟨by simp, hchecks.isQuiet_preface _ _⟩
  | unreadable _ hchecks _ => exact .inl ⟨by simp, hchecks.isQuiet_preface _ _⟩
  | @stored mime format checks content pictures stored _ _ hchecks hheld hlog =>
      rcases storeAll_ends hlog with ⟨rfl, rfl⟩ | ⟨treated, final, front, -, -, rfl⟩
      · right
        -- There is a first picture, since a document without pictures is told apart before.
        have hne : pictures ≠ [] := by
          cases content with
          | none => cases hheld
          | some bytes => exact (Container.content_eq_pictures_iff.1 hheld).2
        rcases List.exists_cons_of_ne_nil hne with ⟨first, rest, rfl⟩
        have hfront : IsQuiet (⟨.mimeType document, mime⟩ :: checks) :=
          (isQuiet_append.1 (hchecks.isQuiet_preface mime content)).1
        refine ⟨rfl, _, format, content, first, rest, hfront, hheld, ?_⟩
        rw [List.append_assoc]
        rfl
      · cases houtcome

/-- An extraction whose outcome is not that pictures were extracted leaves no trace, in any
surroundings.  It only asked questions, so that nothing is changed which questions leave as it is.
Or the directory could not be made: there were pictures, and the directory was asked for before the
first of them was treated, since behind it no picture finds the directory missing.  In both cases
nothing was written, registered or announced, and nothing is changed which only that would change. -/
theorem extract_leaves_no_trace [Toolkit] {σ : Type}
    (answer : σ → (request : Request) → request.Answer × σ) (config : Config)
    (document : Document) (state : σ)
    (houtcome : ((extract config document).run answer state).1.isExtracted = false) :
    let outcome := ((extract config document).run answer state).1
    let final := ((extract config document).run answer state).2
    let log := (extract config document).log answer state
    (∀ exchange ∈ log, exchange.request.isStoring = false) ∧
      (∀ (δ : Type) (view : σ → δ), (∀ state request, request.isStoring = false →
        view (answer state request).2 = view state) → view final = view state) ∧
      (outcome ≠ .outputFailed → IsQuiet log ∧ ∀ (δ : Type) (view : σ → δ),
        (∀ state request, request.isQuery = true → view (answer state request).2 = view state) →
        view final = view state) ∧
      (outcome = .outputFailed → ∃ front format content first rest,
        IsQuiet front ∧ heldBy config format content = .pictures (first :: rest) ∧
          log = front ++ [⟨.content document, content⟩,
            ⟨.makeDirectory (outputDirectory config document), false⟩]) ∧
      ∀ front back number progress middle log later result, front ≠ [] →
        Ends (storePictures config document number progress front) log (some middle) →
        Ends (storePictures config document (number + front.length) middle back) later result →
        result ≠ none := by
  intro outcome final log
  have hcourse : Course config document log outcome := extract_ends (ends_log answer _ state)
  have hanswered : Answered answer state log final := answered_log answer _ state
  have hcases := hcourse.quiet_or_outputFailed houtcome
  have hsilent : ∀ exchange ∈ log, exchange.request.isStoring = false := by
    intro exchange hmem
    rcases hcases with ⟨-, hquiet⟩ | ⟨-, front, format, content, first, rest, hfront, -, hlog⟩
    · exact Request.isStoring_of_isQuery (hquiet exchange hmem)
    · rw [hlog] at hmem
      simp only [List.mem_append, List.mem_cons, List.not_mem_nil, or_false] at hmem
      rcases hmem with hmem | rfl | rfl
      · exact Request.isStoring_of_isQuery (hfront exchange hmem)
      · rfl
      · rfl
  refine ⟨hsilent, ?_, ?_, ?_, ?_⟩
  · intro δ view hview
    exact Answered.view_eq hview hanswered hsilent
  · intro hmade
    rcases hcases with ⟨-, hquiet⟩ | ⟨hfailed, -⟩
    · refine ⟨hquiet, ?_⟩
      intro δ view hview
      exact Answered.view_eq hview hanswered hquiet
    · exact absurd hfailed hmade
  · intro hfailed
    rcases hcases with ⟨hmade, -⟩ | ⟨-, hfirst⟩
    · exact absurd hfailed hmade
    · exact hfirst
  · intro front back number progress middle log later result hne hfront hback
    rcases storePictures_after_first hne hfront hback with ⟨final, rfl⟩
    exact Option.some_ne_none final

/-! ## A full disk -/

/-- What is on a disk. -/
structure Entries where
  directories : List String
  files : List String

/-- Surroundings that take every document for a slideshow and cannot make a directory, though they
make the one around all of them. -/
def Entries.answer (entries : Entries) : (request : Request) → request.Answer × Entries
  | .mimeType _ => (some DocumentFormat.ppt.mimeType, entries)
  | .hasDerivedFiles _ => (.ok false, entries)
  | .pathExists path => (entries.directories.contains path, entries)
  | .content document =>
      match document.source with
      | .memory content => (some content, entries)
      | .file _ => (none, entries)
  | .makeDirectory _ => (false, { entries with directories := "/m" :: entries.directories })
  | .writeFile path _ => (true, { entries with files := path :: entries.files })
  | .register descriptor =>
      (some ⟨0, descriptor.fileName, descriptor.casePath, descriptor.parentId⟩, entries)
  | .notify _ => ((), entries)
  | .addToJob _ => ((), entries)

def fullDocument : Document :=
  ⟨1, "a/b.ppt", .memory Container.slides⟩

theorem extract_full :
    (extract narrowConfig fullDocument).run Entries.answer ⟨[], []⟩ =
      (.outputFailed, ⟨["/m"], []⟩) := by
  have hformat : DocumentFormat.ofMimeType? DocumentFormat.ppt.mimeType = some .ppt := by
    decide +kernel
  have hpictures : Container.content .ppt Container.slides narrowConfig.limits =
      .pictures [Container.slidesPicture] := Container.content_slides
  have hmime : Entries.answer ⟨[], []⟩ (.mimeType fullDocument) =
      (some DocumentFormat.ppt.mimeType, ⟨[], []⟩) := rfl
  exact (extract_of_pictures hmime hformat rfl rfl hpictures).1

theorem extract_leaves_no_trace_full :
    ((extract narrowConfig fullDocument).run Entries.answer ⟨[], []⟩).1 = .outputFailed ∧
      ((extract narrowConfig fullDocument).run Entries.answer ⟨[], []⟩).2.files = [] ∧
      ∃ front format content first rest,
        IsQuiet front ∧ heldBy narrowConfig format content = .pictures (first :: rest) ∧
          (extract narrowConfig fullDocument).log Entries.answer ⟨[], []⟩ =
            front ++ [⟨.content fullDocument, content⟩,
              ⟨.makeDirectory (outputDirectory narrowConfig fullDocument), false⟩] := by
  have houtcome : ((extract narrowConfig fullDocument).run Entries.answer ⟨[], []⟩).1 =
      .outputFailed := by
    rw [extract_full]
  have hview : ∀ (entries : Entries) (request : Request), request.isStoring = false →
      (entries.answer request).2.files = entries.files := by
    intro entries request hrequest
    cases request with
    | content document =>
        rcases document with ⟨id, name, content | path⟩ <;> rfl
    | writeFile path content => cases hrequest
    | _ => rfl
  rcases extract_leaves_no_trace Entries.answer narrowConfig fullDocument ⟨[], []⟩
    (by rw [houtcome]; rfl) with ⟨-, hfiles, -, hfirst, -⟩
  exact ⟨houtcome, hfiles _ Entries.files hview, hfirst houtcome⟩

end Extraction
end OfficePictures
