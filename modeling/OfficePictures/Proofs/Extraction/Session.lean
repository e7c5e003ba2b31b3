import OfficePictures.Proofs.Extraction.Course

/-!
# Session — documents treated one after the other

A session treats documents in surroundings that may answer anything at any time: types that are not
known, a case that does not tell, a disk and a registrar that fail now and then.

* `registrations` — what the registrar took in, and the files that it became;
* `announcements` — what the case and the job were told;
* `session_hands_over` — the job gets the registered files of the session, each once and in their
  order; a document is announced exactly if a file of it was registered, and then its extraction
  always ends as one that did so.
-/

namespace OfficePictures

/-! ## What a log tells -/

/-- Whether the request changes nothing. -/
def Request.isQuery : Request → Bool
  | mimeType _ | hasDerivedFiles _ | pathExists _ | content _ => true
  | _ => false

/-- Whether the case or the job is told of new files. -/
def Request.isAnnouncement : Request → Bool
  | notify _ | addToJob _ => true
  | _ => false

def Request.handover? : Request → Option (List DerivedFile)
  | addToJob files => some files
  | _ => none

/-- What was registered, and the file that it became. -/
def Exchange.registration? : Exchange → Option (Descriptor × DerivedFile)
  | ⟨.register descriptor, some file⟩ => some (descriptor, file)
  | _ => none

namespace Extraction

/-- What the registrar took in, and the files that it became. -/
def registrations (log : List Exchange) : List (Descriptor × DerivedFile) :=
  log.filterMap Exchange.registration?

def registeredFiles (log : List Exchange) : List DerivedFile :=
  (registrations log).map Prod.snd

def announcements (log : List Exchange) : List Request :=
  (log.map Exchange.request).filter Request.isAnnouncement

def handovers (log : List Exchange) : List (List DerivedFile) :=
  log.filterMap fun exchange => exchange.request.handover?

/-- Nothing is changed by what is asked. -/
def IsQuiet (log : List Exchange) : Prop :=
  ∀ exchange ∈ log, exchange.request.isQuery = true

section Logs

variable {front back log : List Exchange}

@[simp] theorem registrations_append :
    registrations (front ++ back) = registrations front ++ registrations back :=
  List.filterMap_append

@[simp] theorem announcements_append :
    announcements (front ++ back) = announcements front ++ announcements back := by
  simp [announcements]

/-- What the job got is among what was announced. -/
theorem handovers_eq (log : List Exchange) :
    handovers log = (announcements log).filterMap Request.handover? := by
  have hself : ∀ request : Request,
      (if request.isAnnouncement then request.handover? else none) = request.handover? := by
    intro request
    cases request <;> rfl
  rw [announcements, List.filterMap_filter]
  simp only [hself, List.filterMap_map]
  rfl

@[simp] theorem isQuiet_nil : IsQuiet [] :=
  List.forall_mem_nil _

@[simp] theorem isQuiet_cons {exchange : Exchange} :
    IsQuiet (exchange :: log) ↔ exchange.request.isQuery = true ∧ IsQuiet log :=
  List.forall_mem_cons

@[simp] theorem isQuiet_append : IsQuiet (front ++ back) ↔ IsQuiet front ∧ IsQuiet back :=
  List.forall_mem_append

theorem IsQuiet.registrations_eq (h : IsQuiet log) : registrations log = [] := by
  refine List.filterMap_eq_nil_iff.2 ?_
  rintro ⟨request, answer⟩ hmem
  have hquery := h _ hmem
  cases request <;> first | rfl | cases hquery

theorem IsQuiet.announcements_eq (h : IsQuiet log) : announcements log = [] := by
  simp only [announcements, List.filter_eq_nil_iff, List.mem_map]
  rintro _ ⟨⟨request, answer⟩, hmem, rfl⟩
  have hquery := h _ hmem
  cases request <;> first | exact Bool.false_ne_true | cases hquery

end Logs

section Pictures

variable {config : Config} {document : Document} {sink : Sink}

/-- What is registered of a picture. -/
def Treated.registration? (config : Config) (document : Document) (sink : Sink)
    (treated : Treated) : Option (Descriptor × DerivedFile) :=
  treated.file?.map fun file =>
    (descriptorOf config document treated.picture treated.name (sink.pathOf treated.name), file)

theorem Treated.registrations_log (treated : Treated) :
    registrations (treated.log config document sink) =
      (treated.registration? config document sink).toList := by
  rcases treated with ⟨name, picture, _ | _ | file⟩ <;> rfl

theorem Treated.announcements_log (treated : Treated) :
    announcements (treated.log config document sink) = [] := by
  rcases treated with ⟨name, picture, _ | _ | file⟩ <;> rfl

theorem registrations_flatMap_log (treated : List Treated) :
    registrations (treated.flatMap (Treated.log config document sink)) =
      treated.filterMap (Treated.registration? config document sink) := by
  induction treated with
  | nil => rfl
  | cons first treated ih =>
      rw [List.flatMap_cons, registrations_append, Treated.registrations_log, ih]
      cases hfirst : first.registration? config document sink with
      | none => simp [hfirst]
      | some entry => simp [hfirst]

theorem map_snd_registrations (treated : List Treated) :
    (treated.filterMap (Treated.registration? config document sink)).map Prod.snd =
      treated.filterMap Treated.file? := by
  have hfile (first : Treated) :
      (first.registration? config document sink).map Prod.snd = first.file? := by
    simp [Treated.registration?, Function.comp_def]
  simp only [List.map_filterMap, hfile]

theorem announcements_flatMap_log (treated : List Treated) :
    announcements (treated.flatMap (Treated.log config document sink)) = [] := by
  induction treated with
  | nil => rfl
  | cons first treated ih =>
      rw [List.flatMap_cons, announcements_append, Treated.announcements_log, ih]
      rfl

end Pictures

/-! ## Sessions -/

/-- How one document was treated. -/
structure Run where
  document : Document
  outcome : Outcome
  log : List Exchange

variable {σ : Type}

/-- The runs of documents that are treated one after the other. -/
def session [Toolkit] (answer : σ → (request : Request) → request.Answer × σ) (config : Config) :
    List Document → σ → List Run
  | [], _ => []
  | document :: documents, state =>
      let script := extract config document
      ⟨document, (script.run answer state).1, script.log answer state⟩ ::
        session answer config documents (script.run answer state).2

theorem answered_session [Toolkit] (answer : σ → (request : Request) → request.Answer × σ)
    (config : Config) (documents : List Document) (state : σ) :
    ∃ final, Script.Answered answer state
      ((session answer config documents state).flatMap Run.log) final := by
  induction documents generalizing state with
  | nil => exact ⟨state, .nil state⟩
  | cons document documents ih =>
      rcases ih ((extract config document).run answer state).2 with ⟨final, hfinal⟩
      exact ⟨final, Script.answered_append.2 ⟨_, Script.answered_log answer _ state, hfinal⟩⟩

/-- Every run of a session takes one of the courses of its document. -/
theorem course_of_mem_session [Toolkit] {answer : σ → (request : Request) → request.Answer × σ}
    {config : Config} {documents : List Document} {state : σ} {run : Run}
    (h : run ∈ session answer config documents state) :
    Course config run.document run.log run.outcome := by
  induction documents generalizing state with
  | nil => cases h
  | cons document documents ih =>
      rcases List.mem_cons.1 h with rfl | htail
      · exact extract_ends (Script.ends_log answer _ state)
      · exact ih htail

/-! ## What is announced -/

section Announced

variable {config : Config} {document : Document}

theorem announcements_announcement (files : List DerivedFile) :
    announcements (announcement document files) =
      if files = [] then [] else [.notify document, .addToJob files] := by
  unfold announcement
  split <;> rfl

theorem registrations_announcement (files : List DerivedFile) :
    registrations (announcement document files) = [] := by
  unfold announcement
  split <;> rfl

theorem Untreated.isQuiet {checks : List Exchange} (h : Untreated config document checks) :
    IsQuiet checks := by
  cases h <;> simp [Request.isQuery]

theorem Untreated.isQuiet_preface {checks : List Exchange} (h : Untreated config document checks)
    (mime : Option String) (content : Option Bytes) :
    IsQuiet (⟨.mimeType document, mime⟩ :: checks ++ [⟨.content document, content⟩]) := by
  simp [Request.isQuery, h.isQuiet]

/-- What one document leads to: its registered files are announced, if there are any, and then the
extraction ends as one that registered so many. -/
structure Announces (run : Run) : Prop where
  announcements_eq : announcements run.log =
    if registeredFiles run.log = [] then []
    else [.notify run.document, .addToJob (registeredFiles run.log)]
  outcome_eq : registeredFiles run.log ≠ [] →
    ∃ written, run.outcome = .extracted written (registeredFiles run.log).length

theorem Announces.of_isQuiet {run : Run} (h : IsQuiet run.log) : Announces run := by
  have hfiles : registeredFiles run.log = [] := by
    rw [registeredFiles, h.registrations_eq, List.map_nil]
  refine ⟨?_, fun hne => absurd hfiles hne⟩
  rw [h.announcements_eq, if_pos hfiles]

theorem Announces.append {front back : List Exchange} {outcome : Outcome} (hfront : IsQuiet front)
    (hback : Announces ⟨document, outcome, back⟩) :
    Announces ⟨document, outcome, front ++ back⟩ := by
  have hfiles : registeredFiles (front ++ back) = registeredFiles back := by
    simp [registeredFiles, hfront.registrations_eq]
  refine ⟨?_, ?_⟩
  · rw [hfiles, announcements_append, hfront.announcements_eq, List.nil_append]
    exact hback.announcements_eq
  · rw [hfiles]
    exact hback.outcome_eq

theorem opening_silent (pictures : List Picture) (sink : Sink) :
    registrations (if pictures = [] then [] else sink.opening) = [] ∧
      announcements (if pictures = [] then [] else sink.opening) = [] := by
  split
  · exact ⟨rfl, rfl⟩
  · unfold Sink.opening
    split <;> exact ⟨rfl, rfl⟩

theorem TreatedAll.registrations_eq [Toolkit] {number : Nat} {progress final : Progress}
    {pictures : List Picture} {treated : List Treated} {front : List Exchange}
    (h : TreatedAll config document number progress pictures treated front final)
    (files : List DerivedFile) :
    registrations (front ++ announcement document files) =
      treated.filterMap (Treated.registration? config document progress.sink) := by
  rw [h.log_eq, registrations_append, registrations_append, (opening_silent _ _).1,
    registrations_flatMap_log, registrations_announcement, List.nil_append, List.append_nil]

theorem storeAll_announces [Toolkit] {pictures : List Picture} {log : List Exchange}
    {outcome : Outcome} (h : Script.Ends (storeAll config document pictures) log outcome) :
    Announces ⟨document, outcome, log⟩ := by
  rcases storeAll_ends h with ⟨rfl, rfl⟩ | ⟨treated, final, front, hall, rfl, rfl⟩
  · exact ⟨rfl, fun hne => absurd rfl hne⟩
  · -- The progress starts without files, so those at the end are the ones registered here.
    have hfinal : final.files = treated.filterMap Treated.file? := by
      rw [hall.files_eq]
      rfl
    have hfiles : registeredFiles (front ++ announcement document final.files) = final.files := by
      rw [registeredFiles, hall.registrations_eq, map_snd_registrations, hfinal]
    have hannounced : announcements (front ++ announcement document final.files) =
        if final.files = [] then [] else [.notify document, .addToJob final.files] := by
      rw [announcements_append, hall.log_eq, announcements_append, (opening_silent _ _).2,
        announcements_flatMap_log, announcements_announcement]
      rfl
    refine ⟨?_, ?_⟩
    · rw [hfiles, hannounced]
    · intro _
      exact ⟨final.written, by rw [hfiles]⟩

/-- An extraction only asks, or it stores pictures after it has only asked. -/
theorem Course.isQuiet_or_stored [Toolkit] {log : List Exchange} {outcome : Outcome}
    (h : Course config document log outcome) :
    IsQuiet log ∨ ∃ front back pictures, IsQuiet front ∧ log = front ++ back ∧
      Script.Ends (storeAll config document pictures) back outcome := by
  cases h with
  | unsupported _ => exact .inl (by simp [Request.isQuery])
  | lookupFailed _ _ => exact .inl (by simp [Request.isQuery])
  | alreadyDone _ => exact .inl (by simp [Request.isQuery])
  | noPictures _ hchecks _ => exact .inl (hchecks.isQuiet_preface _ _)
  | unreadable _ hchecks _ => exact .inl (hchecks.isQuiet_preface _ _)
  | stored _ hchecks _ hlog =>
      -- All that was asked up to the content is in front of what is stored.
      exact .inr ⟨_, _, _, hchecks.isQuiet_preface _ _, rfl, hlog⟩

theorem Course.announces [Toolkit] {log : List Exchange} {outcome : Outcome}
    (h : Course config document log outcome) : Announces ⟨document, outcome, log⟩ := by
  rcases h.isQuiet_or_stored with hquiet | ⟨front, back, pictures, hfront, rfl, hstored⟩
  · exact .of_isQuiet hquiet
  · exact .append hfront (storeAll_announces hstored)

/-- What is announced of a document hands over its registered files. -/
theorem Announces.handovers_flatten {run : Run} (h : Announces run) :
    (handovers run.log).flatten = registeredFiles run.log := by
  rw [handovers_eq, h.announcements_eq]
  by_cases hfiles : registeredFiles run.log = []
  · rw [if_pos hfiles, hfiles]
    rfl
  · rw [if_neg hfiles]
    exact List.append_nil _

theorem handovers_flatten {runs : List Run} (h : ∀ run ∈ runs, Announces run) :
    (runs.flatMap fun run => handovers run.log).flatten =
      runs.flatMap fun run => registeredFiles run.log := by
  induction runs with
  | nil => rfl
  | cons run runs ih =>
      rcases List.forall_mem_cons.1 h with ⟨hrun, hruns⟩
      rw [List.flatMap_cons, List.flatMap_cons, List.flatten_append, hrun.handovers_flatten,
        ih hruns]

/-- Over a session in any surroundings, the job gets the files that the registrar took in, each once
and in their order.  A document is announced, once and before its files go to the job, exactly if a
file of it was registered; and then its extraction ends as one that registered so many. -/
theorem session_hands_over [Toolkit] (answer : σ → (request : Request) → request.Answer × σ)
    (config : Config) (documents : List Document) (state : σ) :
    (session answer config documents state).flatMap (fun run => registeredFiles run.log) =
        ((session answer config documents state).flatMap fun run => handovers run.log).flatten ∧
      ∀ run ∈ session answer config documents state, Announces run := by
  have hall : ∀ run ∈ session answer config documents state, Announces run := by
    intro run hrun
    exact (course_of_mem_session hrun).announces
  exact ⟨(handovers_flatten hall).symm, hall⟩

end Announced

end Extraction
end OfficePictures
