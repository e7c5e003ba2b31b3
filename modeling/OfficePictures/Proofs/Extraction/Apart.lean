import OfficePictures.Proofs.Extraction.Once
import OfficePictures.Proofs.Extraction.Siblings
import OfficePictures.Proofs.Script.Interleaving

/-!
# Apart — documents that do not disturb each other

The extractions from two documents of different numbers may ask by turns, as threads do.  Each works
in a directory of its own beside the other's and asks the case about its own document only, so
neither finds anything that the other one left.

* `Request.Concerns` — the requests that an extraction from a document can ask;
* `KeepsApart` — surroundings in which what is done for one document or in one directory is seen at
  that document or in that directory only;
* `KeepsApart.isolates` — there, one extraction sees nothing of what another one does;
* `extract_alike` — an extraction does not depend on what registered pictures became;
* `extract_apart` — by any schedule, each extraction ends as if it ran alone.
-/

namespace OfficePictures

namespace Request

/-- The path at which something may be made or changed. -/
def changed? : Request → Option String
  | makeDirectory path | writeFile path _ => some path
  | _ => none

theorem Alike.eq_or_addToJob {request other : Request} (h : request.Alike other) :
    request = other ∨ ∃ files others, request = addToJob files ∧ other = addToJob others := by
  cases request <;> cases other <;> first | exact .inl h | exact .inr ⟨_, _, rfl, rfl⟩

theorem Alike.descriptor?_eq {request other : Request} (h : request.Alike other) :
    request.descriptor? = other.descriptor? := by
  rcases h.eq_or_addToJob with rfl | ⟨files, others, rfl, rfl⟩
  · rfl
  · rfl

/-- The requests that an extraction from a document can ask. -/
def Concerns (config : Config) (document : Document) : Request → Prop
  | mimeType asked | hasDerivedFiles asked | content asked | notify asked => asked = document
  | pathExists path | makeDirectory path => path = Extraction.outputDirectory config document
  | writeFile path _ => Extraction.IsWithin (Extraction.outputDirectory config document) path
  | register descriptor => descriptor.parentId = document.id
  | addToJob _ => True

end Request

namespace Extraction

open Script

variable {config : Config} {document : Document}

/-! ## What an extraction asks -/

theorem Treated.concerns_log {treated : Treated} (hsafe : FileName.IsSafe treated.name.toList) :
    ∀ exchange ∈ treated.log config document (sinkOf config document),
      exchange.request.Concerns config document := by
  intro exchange hmem
  rcases List.mem_cons.1 hmem with rfl | hrest
  · exact isWithin_pathOf (sinkOf config document) hsafe
  · split at hrest
    · rw [List.mem_singleton] at hrest
      subst hrest
      rfl
    · cases hrest

theorem storeAll_concerns [Toolkit] {pictures : List Picture} {log : List Exchange}
    {outcome : Outcome} (h : Ends (storeAll config document pictures) log outcome) :
    ∀ exchange ∈ log, exchange.request.Concerns config document := by
  rcases storeAll_ends h with ⟨rfl, -⟩ | ⟨treated, final, front, hall, rfl, -⟩
  · exact List.forall_mem_singleton.2 rfl
  · have hsafe : ∀ one ∈ treated, FileName.IsSafe one.name.toList := by
      intro one hone
      refine isSafe_fileNames pictures one.name ?_
      have hmem := List.mem_map_of_mem (f := Treated.name) hone
      rwa [hall.names_eq] at hmem
    rw [hall.log_eq]
    intro exchange hmem
    rcases List.mem_append.1 hmem with hmem | hannounced
    · rcases List.mem_append.1 hmem with hopening | htreated
      · split at hopening
        · cases hopening
        · rw [Sink.eq_of_mem_opening hopening]
          rfl
      · rcases List.mem_flatMap.1 htreated with ⟨one, hone, hlog⟩
        exact Treated.concerns_log (hsafe one hone) exchange hlog
    · rcases mem_announcement hannounced with hnotify | hadd
      · rw [hnotify]
        rfl
      · rw [hadd]
        trivial

theorem Untreated.concerns {checks : List Exchange} (h : Untreated config document checks) :
    ∀ exchange ∈ checks, exchange.request.Concerns config document := by
  cases h <;> simp [Request.Concerns]

/-- Whichever course it takes, an extraction asks about its own document and directory only. -/
theorem Course.concerns [Toolkit] {log : List Exchange} {outcome : Outcome}
    (h : Course config document log outcome) :
    ∀ exchange ∈ log, exchange.request.Concerns config document := by
  have hpreface : ∀ {checks : List Exchange} (mime : Option String) (content : Option Bytes),
      Untreated config document checks →
      ∀ exchange ∈ ⟨.mimeType document, mime⟩ :: checks ++ [⟨.content document, content⟩],
        exchange.request.Concerns config document := by
    intro checks mime content hchecks
    rw [List.forall_mem_append, List.forall_mem_cons, List.forall_mem_singleton]
    exact ⟨⟨rfl, hchecks.concerns⟩, rfl⟩
  cases h with
  | unsupported _ => simp [Request.Concerns]
  | lookupFailed _ _ => simp [Request.Concerns]
  | alreadyDone _ => simp [Request.Concerns]
  | noPictures _ hchecks _ => exact hpreface _ _ hchecks
  | unreadable _ hchecks _ => exact hpreface _ _ hchecks
  | stored _ hchecks _ hlog =>
      exact List.forall_mem_append.2 ⟨hpreface _ _ hchecks, storeAll_concerns hlog⟩

/-! ## What an extraction depends on -/

/-- Progress with the same pictures, whatever those that were registered became. -/
structure Progress.Alike (progress other : Progress) : Prop where
  sink_eq : progress.sink = other.sink
  names_eq : progress.names = other.names
  length_eq : progress.files.length = other.files.length
  written_eq : progress.written = other.written

theorem write_alike (sink : Sink) (name : String) (content : Bytes) :
    Alike Eq (sink.write name content) (sink.write name content) := by
  have hprepare : Alike Eq sink.prepare sink.prepare := by
    unfold Sink.prepare
    split
    · exact .done rfl
    · refine (alike_request _).bind ?_
      rintro made _ rfl
      cases made <;> exact .done rfl
  refine hprepare.bind ?_
  rintro ⟨prepared, sink⟩ _ rfl
  cases prepared with
  | error fault => exact .done rfl
  | ok _ =>
      refine (alike_request _).bind ?_
      rintro done _ rfl
      cases done <;> exact .done rfl

theorem storePicture_alike [Toolkit] {number : Nat} {picture : Picture} {progress other : Progress}
    (h : progress.Alike other) :
    Alike (Option.Rel Progress.Alike) (storePicture config document number picture progress)
      (storePicture config document number picture other) := by
  rcases progress with ⟨sink, names, files, written⟩
  rcases other with ⟨_, _, others, _⟩
  rcases h with ⟨rfl, rfl, hlength, rfl⟩
  refine (write_alike sink _ _).bind ?_
  rintro ⟨result, prepared⟩ _ rfl
  rcases result with ⟨_ | _⟩ | path
  · exact .done .none
  · exact .done (.some ⟨rfl, rfl, hlength, rfl⟩)
  · -- Only whether the picture was registered counts, not what it became.
    refine (alike_request _).bind ?_
    intro file otherFile hfile
    refine .done (.some ⟨rfl, rfl, ?_, rfl⟩)
    have hcount : file.toList.length = otherFile.toList.length := by
      have hsome : file.isSome = otherFile.isSome := hfile
      cases file <;> cases otherFile <;> first | rfl | cases hsome
    calc
      (files ++ file.toList).length = files.length + file.toList.length := List.length_append
      _ = others.length + otherFile.toList.length := by rw [hlength, hcount]
      _ = (others ++ otherFile.toList).length := List.length_append.symm

theorem storePictures_alike [Toolkit] {pictures : List Picture} {number : Nat}
    {progress other : Progress} (h : progress.Alike other) :
    Alike (Option.Rel Progress.Alike) (storePictures config document number progress pictures)
      (storePictures config document number other pictures) := by
  induction pictures generalizing number progress other with
  | nil => exact .done (.some h)
  | cons picture pictures ih =>
      refine (storePicture_alike h).bind ?_
      intro result otherResult hresult
      cases hresult with
      | none => exact .done .none
      | some hprogress => exact ih hprogress

theorem announce_alike {files others : List DerivedFile} (h : files.length = others.length) :
    Alike Eq (announce document files) (announce document others) := by
  unfold announce
  by_cases hnil : files = []
  · have hothers : others = [] := by
      rw [← List.length_eq_zero_iff, ← h, hnil, List.length_nil]
    rw [if_neg (fun hne => hne hnil), if_neg (fun hne => hne hothers)]
    exact .done rfl
  · have hothers : others ≠ [] := by
      intro hothers
      exact hnil (List.length_eq_zero_iff.1 (by rw [h, hothers, List.length_nil]))
    rw [if_pos hnil, if_pos hothers]
    refine (alike_request _).bind ?_
    intro _ _ _
    exact .addToJob (.done rfl)

theorem storeAll_alike [Toolkit] (pictures : List Picture) :
    Alike Eq (storeAll config document pictures) (storeAll config document pictures) := by
  refine (storePictures_alike ⟨rfl, rfl, rfl, rfl⟩).bind ?_
  intro result otherResult hresult
  cases hresult with
  | none => exact .done rfl
  | @some progress other hprogress =>
      refine (announce_alike hprogress.length_eq).bind ?_
      intro _ _ _
      refine .done ?_
      rw [hprogress.written_eq, hprogress.length_eq]

/-- An extraction asks the same and ends the same, whatever the registered pictures became. -/
theorem extract_alike [Toolkit] (config : Config) (document : Document) :
    Alike Eq (extract config document) (extract config document) := by
  have hformat : Alike Eq (format? document) (format? document) := by
    refine (alike_request _).bind ?_
    rintro mime _ rfl
    exact .done rfl
  have hdone : Alike Eq (isDone config document) (isDone config document) := by
    refine (alike_request _).bind ?_
    rintro reply _ rfl
    rcases reply with fault | _ | _
    · exact .done rfl
    · exact .done rfl
    · refine (alike_request _).bind ?_
      rintro isThere _ rfl
      exact .done rfl
  refine hformat.bind ?_
  rintro format _ rfl
  cases format with
  | none => exact .done rfl
  | some format =>
      refine hdone.bind ?_
      rintro reply _ rfl
      rcases reply with fault | _ | _
      · exact .done rfl
      · have hcontent : Alike Eq (contentOf config document format)
            (contentOf config document format) := by
          refine (alike_request _).bind ?_
          rintro content _ rfl
          cases content <;> exact .done rfl
        refine hcontent.bind ?_
        rintro held _ rfl
        cases held with
        | empty => exact .done rfl
        | unreadable fault => exact .done rfl
        | pictures list => exact storeAll_alike list
      · exact .done rfl

/-! ## Surroundings that keep documents apart -/

/-- Surroundings in which what is done for one document or in one directory is seen at that document
or in that directory only.  `derived` is what the case tells of the files that come from a document,
and `entryAt` is what there is at a path.  Documents do not change, and whether a directory can be
made, a file be written or a picture be registered depends on nothing else. -/
structure KeepsApart {σ ν : Type} (answer : σ → (request : Request) → request.Answer × σ)
    (derived : σ → Nat → Except LookupFault Bool) (entryAt : σ → String → Option ν) : Prop where
  mimeType (state other : σ) (document : Document) :
    (answer state (.mimeType document)).1 = (answer other (.mimeType document)).1
  content (state other : σ) (document : Document) :
    (answer state (.content document)).1 = (answer other (.content document)).1
  makeDirectory (state other : σ) (path : String) :
    (answer state (.makeDirectory path)).1 = (answer other (.makeDirectory path)).1
  writeFile (state other : σ) (path : String) (content : Bytes) :
    (answer state (.writeFile path content)).1 = (answer other (.writeFile path content)).1
  register (state other : σ) (descriptor : Descriptor) :
    (answer state (.register descriptor)).1.isSome = (answer other (.register descriptor)).1.isSome
  hasDerivedFiles (state : σ) (document : Document) :
    (answer state (.hasDerivedFiles document)).1 = derived state document.id
  pathExists (state : σ) (path : String) :
    (answer state (.pathExists path)).1 = (entryAt state path).isSome
  /-- Only a registration under its number changes what comes from a document. -/
  derived_eq (state : σ) (request : Request) (id : Nat) :
    (∀ descriptor, request = .register descriptor → descriptor.parentId ≠ id) →
    derived (answer state request).2 id = derived state id
  /-- What comes from a document after a registration depends on what came from it before. -/
  derived_register (state other : σ) (descriptor : Descriptor) :
    derived state descriptor.parentId = derived other descriptor.parentId →
    derived (answer state (.register descriptor)).2 descriptor.parentId =
      derived (answer other (.register descriptor)).2 descriptor.parentId
  /-- Only making directories and writing files changes what is on disk. -/
  entryAt_eq (state : σ) (request : Request) (path : String) : request.changed? = none →
    entryAt (answer state request).2 path = entryAt state path
  /-- What is done in one directory changes nothing in another one beside it. -/
  entryAt_sibling (state : σ) (request : Request) {directory other changed path : String} :
    AreSiblings directory other → request.changed? = some changed → IsWithin other changed →
    IsWithin directory path → entryAt (answer state request).2 path = entryAt state path
  /-- What becomes of a directory depends on what was in it. -/
  entryAt_within (state other : σ) (request : Request) {directory changed : String} :
    request.changed? = some changed → IsWithin directory changed →
    (∀ path, IsWithin directory path → entryAt state path = entryAt other path) →
    ∀ path, IsWithin directory path →
      entryAt (answer state request).2 path = entryAt (answer other request).2 path

section KeepsApart

variable {σ ν : Type} {answer : σ → (request : Request) → request.Answer × σ}
  {derived : σ → Nat → Except LookupFault Bool} {entryAt : σ → String → Option ν}

/-- States in which the same comes from a document and the same is in its output directory. -/
structure LooksLike (derived : σ → Nat → Except LookupFault Bool)
    (entryAt : σ → String → Option ν) (config : Config) (document : Document) (state other : σ) :
    Prop where
  derived_eq : derived state document.id = derived other document.id
  entryAt_eq : ∀ path, IsWithin (outputDirectory config document) path →
    entryAt state path = entryAt other path

theorem isWithin_of_concerns {request : Request} {changed : String}
    (h : request.Concerns config document) (hchanged : request.changed? = some changed) :
    IsWithin (outputDirectory config document) changed := by
  cases request with
  | makeDirectory path =>
      cases hchanged
      have hpath : changed = outputDirectory config document := h
      rw [hpath]
      exact isWithin_self _
  | writeFile path content =>
      cases hchanged
      exact h
  | _ => cases hchanged

/-- A request about a document is answered alike in states that look the same to it. -/
theorem KeepsApart.sameAnswer (h : KeepsApart answer derived entryAt) {request : Request}
    {state other : σ} (hconcerns : request.Concerns config document)
    (hlooks : LooksLike derived entryAt config document state other) :
    request.SameAnswer (answer state request).1 (answer other request).1 := by
  cases request with
  | mimeType asked => exact h.mimeType state other asked
  | content asked => exact h.content state other asked
  | makeDirectory path => exact h.makeDirectory state other path
  | writeFile path content => exact h.writeFile state other path content
  | register descriptor => exact h.register state other descriptor
  | hasDerivedFiles asked =>
      have hasked : asked = document := hconcerns
      subst hasked
      calc
        (answer state (.hasDerivedFiles asked)).1 = derived state asked.id := h.hasDerivedFiles state asked
        _ = derived other asked.id := hlooks.derived_eq
        _ = (answer other (.hasDerivedFiles asked)).1 := (h.hasDerivedFiles other asked).symm
  | pathExists path =>
      have hpath : path = outputDirectory config document := hconcerns
      have hentry : entryAt state path = entryAt other path :=
        hlooks.entryAt_eq path (hpath ▸ isWithin_self path)
      calc
        (answer state (.pathExists path)).1 = (entryAt state path).isSome := h.pathExists state path
        _ = (entryAt other path).isSome := by rw [hentry]
        _ = (answer other (.pathExists path)).1 := (h.pathExists other path).symm
  | notify asked => rfl
  | addToJob files => rfl

/-- A request about a document, asked in states that look the same to it, leaves such states. -/
theorem KeepsApart.looksLike_own (h : KeepsApart answer derived entryAt) {request : Request}
    {state other : σ} (hconcerns : request.Concerns config document)
    (hlooks : LooksLike derived entryAt config document state other) :
    LooksLike derived entryAt config document (answer state request).2
      (answer other request).2 := by
  refine ⟨?_, ?_⟩
  · by_cases hregister : ∃ descriptor, request = .register descriptor
    · rcases hregister with ⟨descriptor, rfl⟩
      have hparent : descriptor.parentId = document.id := hconcerns
      have hderived := h.derived_register state other descriptor
      rw [hparent] at hderived
      exact hderived hlooks.derived_eq
    · have hkept (state : σ) := h.derived_eq state request document.id
        fun descriptor heq => absurd ⟨descriptor, heq⟩ hregister
      rw [hkept state, hkept other]
      exact hlooks.derived_eq
  · intro path hpath
    cases hchanged : request.changed? with
    | none =>
        rw [h.entryAt_eq state request path hchanged, h.entryAt_eq other request path hchanged]
        exact hlooks.entryAt_eq path hpath
    | some changed =>
        have hwithin := isWithin_of_concerns hconcerns hchanged
        exact h.entryAt_within state other request hchanged hwithin hlooks.entryAt_eq path hpath

/-- The job gets files without a change that a document sees. -/
theorem KeepsApart.looksLike_addToJob (h : KeepsApart answer derived entryAt) (state : σ)
    (files : List DerivedFile) :
    LooksLike derived entryAt config document (answer state (.addToJob files)).2 state :=
  ⟨h.derived_eq state _ _ nofun, fun path _ => h.entryAt_eq state _ path rfl⟩

/-- A request about another document leaves a state that looks the same. -/
theorem KeepsApart.looksLike_foreign (h : KeepsApart answer derived entryAt) {foreign : Document}
    (hid : document.id ≠ foreign.id) {request : Request} (hconcerns : request.Concerns config foreign)
    (state : σ) :
    LooksLike derived entryAt config document (answer state request).2 state := by
  refine ⟨?_, ?_⟩
  · refine h.derived_eq state request document.id ?_
    rintro descriptor rfl hparent
    have hforeign : descriptor.parentId = foreign.id := hconcerns
    exact hid (hparent.symm.trans hforeign)
  · intro path hpath
    cases hchanged : request.changed? with
    | none => exact h.entryAt_eq state request path hchanged
    | some changed =>
        exact h.entryAt_sibling state request (areSiblings_outputDirectory config hid) hchanged
          (isWithin_of_concerns hconcerns hchanged) hpath

theorem LooksLike.symm {state other : σ} (h : LooksLike derived entryAt config document state other) :
    LooksLike derived entryAt config document other state :=
  ⟨h.derived_eq.symm, fun path hpath => (h.entryAt_eq path hpath).symm⟩

theorem LooksLike.trans {state middle other : σ}
    (h : LooksLike derived entryAt config document state middle)
    (hrest : LooksLike derived entryAt config document middle other) :
    LooksLike derived entryAt config document state other :=
  ⟨h.derived_eq.trans hrest.derived_eq,
    fun path hpath => (h.entryAt_eq path hpath).trans (hrest.entryAt_eq path hpath)⟩

/-- The extraction from a document sees nothing of that from another one. -/
theorem KeepsApart.isolates (h : KeepsApart answer derived entryAt) (config : Config)
    {document foreign : Document} (hid : document.id ≠ foreign.id) :
    Isolates answer (LooksLike derived entryAt config document)
      (Request.Concerns config document) (Request.Concerns config foreign) := by
  refine ⟨?_, ?_, ?_, ?_⟩
  · intro request state other hconcerns hlooks
    exact h.sameAnswer hconcerns hlooks
  · intro request state other hconcerns hlooks
    exact h.looksLike_own hconcerns hlooks
  · intro files others state other hlooks
    exact ((h.looksLike_addToJob state files).trans hlooks).trans
      (h.looksLike_addToJob other others).symm
  · intro request state other hconcerns hlooks
    exact (h.looksLike_foreign hid hconcerns state).trans hlooks

/-! ## Two extractions by turns -/

/-- What an extraction among others has in common with one that runs alone: its outcome, what it
submits to the registrar, everything else that it asks, apart from what the registered pictures
became, and what is in its directory at the end. -/
structure IsAsAlone [Toolkit] (answer : σ → (request : Request) → request.Answer × σ)
    (entryAt : σ → String → Option ν) (config : Config) (document : Document) (state : σ)
    (outcome : Outcome) (log : List Exchange) (final : σ) : Prop where
  outcome_eq : outcome = ((extract config document).run answer state).1
  submissions_eq : submissions log = submissions ((extract config document).log answer state)
  requests_alike : List.Forall₂ Request.Alike (log.map Exchange.request)
    (((extract config document).log answer state).map Exchange.request)
  entryAt_eq : ∀ path, IsWithin (outputDirectory config document) path →
    entryAt final path = entryAt ((extract config document).run answer state).2 path

theorem submissions_eq_of_alike {log other : List Exchange}
    (h : List.Forall₂ Request.Alike (log.map Exchange.request) (other.map Exchange.request)) :
    submissions log = submissions other := by
  have hrequests : ∀ {front back : List Request}, List.Forall₂ Request.Alike front back →
      front.filterMap Request.descriptor? = back.filterMap Request.descriptor? := by
    intro front back hboth
    induction hboth with
    | nil => rfl
    | cons hfirst _ ih => rw [List.filterMap_cons, List.filterMap_cons, hfirst.descriptor?_eq, ih]
  have hmapped := hrequests h
  rwa [List.filterMap_map, List.filterMap_map] at hmapped

theorem KeepsApart.isAsAlone [Toolkit] (h : KeepsApart answer derived entryAt) {foreign : Document}
    (hid : document.id ≠ foreign.id) {side : Side} {log : List (Side × Exchange)} {state final : σ}
    {outcome foreignOutcome : Outcome} (hanswered : Answered answer state (log.map Prod.snd) final)
    (hends : Ends (extract config document) (logOf side log) outcome)
    (hforeign : Ends (extract config foreign) (logOf side.other log) foreignOutcome) :
    IsAsAlone answer entryAt config document state outcome (logOf side log) final := by
  rcases (h.isolates config hid).alone hanswered hends (extract_ends hends).concerns
    (extract_ends hforeign).concerns (extract_alike config document)
    ⟨rfl, fun path _ => rfl⟩ with ⟨houtcome, hfinal, hrequests⟩
  exact ⟨houtcome, submissions_eq_of_alike hrequests, hrequests, hfinal.entryAt_eq⟩

/-- Documents of different numbers do not disturb each other.  Their extractions, by any schedule of
their requests, both end as if they ran alone: with the same outcome, after submitting the same
descriptors in the same order, and with the same files in their directories.  These are beside each
other, and no path leads into both. -/
theorem extract_apart [Toolkit] (hkeeps : KeepsApart answer derived entryAt) (config : Config)
    (first second : Document) (hid : first.id ≠ second.id) (schedule : List Side) (state : σ) :
    let joint := interleave answer schedule (extract config first) (extract config second) state
    let directory := outputDirectory config first
    let other := outputDirectory config second
    IsAsAlone answer entryAt config first state joint.first (joint.logOf .first) joint.final ∧
      IsAsAlone answer entryAt config second state joint.second (joint.logOf .second) joint.final ∧
      AreSiblings directory other ∧ directory ≠ other ∧ ¬ IsWithin directory other ∧
      ¬ IsWithin other directory ∧ ∀ path, IsWithin directory path → ¬ IsWithin other path := by
  intro joint directory other
  rcases interleaved_interleave answer schedule (extract config first) (extract config second)
    state with ⟨hanswered, hfirst, hsecond⟩
  have hsiblings : AreSiblings directory other := areSiblings_outputDirectory config hid
  refine ⟨?_, ?_, hsiblings, ?_, ?_, ?_, ?_⟩
  · exact hkeeps.isAsAlone hid hanswered hfirst hsecond
  · exact hkeeps.isAsAlone hid.symm hanswered hsecond hfirst
  · intro heq
    exact hsiblings.disjoint (isWithin_self directory) (heq ▸ isWithin_self directory)
  · intro hwithin
    exact hsiblings.disjoint hwithin (isWithin_self other)
  · intro hwithin
    exact hsiblings.disjoint (isWithin_self directory) hwithin
  · intro path hwithin
    exact hsiblings.disjoint hwithin

end KeepsApart

/-! ## Two presentations -/

/-- A case and a disk: the documents that registered pictures come from, and at each path nothing, a
directory or a file. -/
structure Shelf where
  parents : List Nat
  entries : String → Option (Option Bytes)

namespace Shelf

def put (shelf : Shelf) (path : String) (entry : Option Bytes) : Shelf :=
  { shelf with entries := fun other => if other = path then some entry else shelf.entries other }

def derived (shelf : Shelf) (id : Nat) : Except LookupFault Bool :=
  .ok (shelf.parents.contains id)

/-- Surroundings that take every document for a slideshow and never fail.  They number the files of
the case, so what a picture becomes depends on what was registered before. -/
def answer (shelf : Shelf) : (request : Request) → request.Answer × Shelf
  | .mimeType _ => (some DocumentFormat.ppt.mimeType, shelf)
  | .hasDerivedFiles document => (shelf.derived document.id, shelf)
  | .pathExists path => ((shelf.entries path).isSome, shelf)
  | .content document =>
      match document.source with
      | .memory content => (some content, shelf)
      | .file _ => (none, shelf)
  | .makeDirectory path => (true, shelf.put path none)
  | .writeFile path content => (true, shelf.put path (some content))
  | .register descriptor =>
      (some ⟨shelf.parents.length, descriptor.fileName, descriptor.casePath, descriptor.parentId⟩,
        { shelf with parents := descriptor.parentId :: shelf.parents })
  | .notify _ => ((), shelf)
  | .addToJob _ => ((), shelf)

theorem entries_put_of_ne {shelf : Shelf} {path other : String} (entry : Option Bytes)
    (h : other ≠ path) : (shelf.put path entry).entries other = shelf.entries other :=
  if_neg h

/-- What is put somewhere changes two shelves alike. -/
theorem entries_put_congr {shelf other : Shelf} {directory : String} (path : String)
    (entry : Option Bytes)
    (h : ∀ path, IsWithin directory path → shelf.entries path = other.entries path) :
    ∀ within, IsWithin directory within →
      (shelf.put path entry).entries within = (other.put path entry).entries within := by
  intro within hwithin
  by_cases heq : within = path
  · exact (if_pos heq).trans (if_pos heq).symm
  · calc
      (shelf.put path entry).entries within = shelf.entries within := entries_put_of_ne entry heq
      _ = other.entries within := h within hwithin
      _ = (other.put path entry).entries within := (entries_put_of_ne entry heq).symm

theorem keepsApart : KeepsApart answer derived entries where
  mimeType _ _ _ := rfl
  content _ _ document := by
    rcases document with ⟨id, name, content | path⟩ <;> rfl
  makeDirectory _ _ _ := rfl
  writeFile _ _ _ _ := rfl
  register _ _ _ := rfl
  hasDerivedFiles _ _ := rfl
  pathExists _ _ := rfl
  derived_eq shelf request id := by
    intro hregister
    cases request with
    | content document => rcases document with ⟨id, name, content | path⟩ <;> rfl
    | register descriptor =>
        have hne : ¬ id = descriptor.parentId := (hregister descriptor rfl).symm
        simp [derived, answer, hne]
    | _ => rfl
  derived_register shelf other descriptor := by
    intro _
    simp [derived, answer]
  entryAt_eq shelf request path := by
    intro hchanged
    cases request with
    | content document => rcases document with ⟨id, name, content | path⟩ <;> rfl
    | makeDirectory path => cases hchanged
    | writeFile path content => cases hchanged
    | _ => rfl
  entryAt_sibling shelf request := by
    intro directory other changed path hsiblings hchanged hother hpath
    -- What is put into the other directory is at another path.
    have hne : path ≠ changed := by
      rintro rfl
      exact hsiblings.disjoint hpath hother
    cases request with
    | makeDirectory made =>
        cases hchanged
        exact entries_put_of_ne none hne
    | writeFile written content =>
        cases hchanged
        exact entries_put_of_ne (some content) hne
    | _ => cases hchanged
  entryAt_within shelf other request := by
    intro directory changed hchanged _ hentries
    cases request with
    | makeDirectory made => exact entries_put_congr made none hentries
    | writeFile written content => exact entries_put_congr written (some content) hentries
    | _ => cases hchanged

end Shelf

def emptyShelf : Shelf :=
  ⟨[], fun _ => none⟩

/-- A presentation whose name would lead out of its directory. -/
def slidesDocument (id : Nat) : Document :=
  ⟨id, "../b.ppt", .memory Container.slides⟩

theorem extract_slidesDocument (id : Nat) :
    ((extract narrowConfig (slidesDocument id)).run Shelf.answer emptyShelf).1 = .extracted 1 1 := by
  have hmime : Shelf.answer emptyShelf (.mimeType (slidesDocument id)) =
      (some DocumentFormat.ppt.mimeType, emptyShelf) := rfl
  have hformat : DocumentFormat.ofMimeType? DocumentFormat.ppt.mimeType = some .ppt := by
    decide +kernel
  have hpictures : Container.content .ppt Container.slides narrowConfig.limits =
      .pictures [Container.slidesPicture] := Container.content_slides
  rw [(extract_of_pictures hmime hformat rfl rfl hpictures).1]
  rfl

/-- Two presentations of the same hostile name, by turns. -/
theorem extract_apart_slides :
    let schedule := [Side.first, .second, .second, .first, .second, .first, .first, .second]
    let joint := interleave Shelf.answer schedule (extract narrowConfig (slidesDocument 1))
      (extract narrowConfig (slidesDocument 11)) emptyShelf
    joint.first = .extracted 1 1 ∧ joint.second = .extracted 1 1 ∧
      outputDirectory narrowConfig (slidesDocument 1) ≠
        outputDirectory narrowConfig (slidesDocument 11) := by
  intro schedule joint
  rcases extract_apart Shelf.keepsApart narrowConfig (slidesDocument 1) (slidesDocument 11)
    (by decide) schedule emptyShelf with ⟨hfirst, hsecond, -, hne, -⟩
  refine ⟨?_, ?_, hne⟩
  · exact hfirst.outcome_eq.trans (extract_slidesDocument 1)
  · exact hsecond.outcome_eq.trans (extract_slidesDocument 11)

end Extraction
end OfficePictures
