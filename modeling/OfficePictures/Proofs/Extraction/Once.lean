import OfficePictures.Proofs.Config
import OfficePictures.Proofs.Container
import OfficePictures.Proofs.Document
import OfficePictures.Proofs.Extraction.Effect
import OfficePictures.Proofs.Extraction.Session
import OfficePictures.Toolkit.BuiltIn

/-!
# Once — no path is registered twice

In a session, a document of which a picture was registered has derived files and a directory.  If
the case and the disk tell so, the document is not treated again, so all paths in the case differ.

* `Truthful` — a log whose answers remember what was registered and which directories were made;
* `Settled` — what registered pictures leave behind: their directories, and paths that differ;
* `settled_append_run` — a run keeps a settled log settled;
* `session_registers_once` — the paths in the case that a session registers all differ.
-/

namespace OfficePictures
namespace Extraction

/-- A log in which a document has derived files if a picture of it was registered before, and in
which a directory that was made stays. -/
structure Truthful (log : List Exchange) : Prop where
  hasDerivedFiles : ∀ before after document reply,
    log = before ++ ⟨.hasDerivedFiles document, reply⟩ :: after →
    (∃ entry ∈ registrations before, entry.1.parentId = document.id) → reply = .ok true
  pathExists : ∀ before after path isThere,
    log = before ++ ⟨.pathExists path, isThere⟩ :: after →
    ⟨.makeDirectory path, true⟩ ∈ before → isThere = true

/-! ## Documents that are remembered -/

/-- What a log holds if a picture of a document was registered: the registration and the making of
its directory. -/
structure Remembers (config : Config) (document : Document) (log : List Exchange) : Prop where
  registered : ∃ entry ∈ registrations log, entry.1.parentId = document.id
  made : ⟨.makeDirectory (outputDirectory config document), true⟩ ∈ log

section Remembered

variable {config : Config} {document : Document} {past log later : List Exchange}

theorem Remembers.mono (h : Remembers config document past) (hsubset : past ⊆ log) :
    Remembers config document log := by
  rcases h.registered with ⟨entry, hentry, hparent⟩
  exact ⟨⟨entry, List.filterMap_subset _ hsubset hentry, hparent⟩, hsubset h.made⟩

/-- Truthful answers do not lead to a second treatment. -/
theorem Remembers.not_untreated (hremembers : Remembers config document past)
    (htruthful : Truthful (past ++ log ++ later)) {mime : Option String}
    {checks rest : List Exchange} (hlog : log = ⟨.mimeType document, mime⟩ :: checks ++ rest) :
    ¬ Untreated config document checks := by
  intro huntreated
  -- One of the two checks would have been answered against what is remembered.
  cases huntreated with
  | noFiles =>
      have hreply := htruthful.hasDerivedFiles (past ++ [⟨.mimeType document, mime⟩])
        (rest ++ later) document (.ok false) (by simp [hlog])
        (hremembers.mono (List.subset_append_left ..)).registered
      cases hreply
  | noDirectory =>
      have hthere := htruthful.pathExists
        (past ++ [⟨.mimeType document, mime⟩, ⟨.hasDerivedFiles document, .ok true⟩])
        (rest ++ later) (outputDirectory config document) false (by simp [hlog])
        (hremembers.mono (List.subset_append_left ..)).made
      cases hthere

/-- A document that is remembered is not treated again. -/
theorem Course.of_remembers [Toolkit] {outcome : Outcome}
    (hcourse : Course config document log outcome)
    (hremembers : Remembers config document past) (htruthful : Truthful (past ++ log ++ later)) :
    IsQuiet log ∧ (outcome = .unsupported ∨ outcome = .alreadyDone) := by
  cases hcourse with
  | unsupported _ => exact ⟨by simp [Request.isQuery], .inl rfl⟩
  | alreadyDone _ => exact ⟨by simp [Request.isQuery], .inr rfl⟩
  | @lookupFailed mime _ fault _ =>
      have hreply := htruthful.hasDerivedFiles (past ++ [⟨.mimeType document, mime⟩])
        later document (.error fault) (by simp)
        (hremembers.mono (List.subset_append_left ..)).registered
      cases hreply
  | noPictures _ huntreated _ =>
      exact absurd huntreated (hremembers.not_untreated htruthful rfl)
  | unreadable _ huntreated _ =>
      exact absurd huntreated (hremembers.not_untreated htruthful rfl)
  | stored _ huntreated _ _ =>
      exact absurd huntreated (hremembers.not_untreated htruthful (List.append_assoc _ _ _))

end Remembered

/-! ## What a run registers -/

/-- What is registered of a document: pictures of its own, at paths that differ, after its directory
was made. -/
structure Registers (config : Config) (document : Document) (log : List Exchange) : Prop where
  own : ∀ entry ∈ registrations log, entry.1.parentId = document.id ∧
    ∃ name : String, FileName.IsSafe name.toList ∧ entry.1.casePath =
      Descriptor.pathInCase config.relativeDirectory document.uniqueName name
  nodup : ((registrations log).map fun entry => entry.1.casePath).Nodup
  made : registrations log ≠ [] →
    ⟨.makeDirectory (outputDirectory config document), true⟩ ∈ log

section Registered

variable {config : Config} {document : Document} {log : List Exchange}

theorem Registers.of_isQuiet (h : IsQuiet log) : Registers config document log := by
  have hnone := h.registrations_eq
  refine ⟨?_, ?_, fun hne => absurd hnone hne⟩
  · rw [hnone]
    exact List.forall_mem_nil _
  · rw [hnone]
    exact List.nodup_nil

theorem Registers.append {front : List Exchange} (hfront : IsQuiet front)
    (hlog : Registers config document log) : Registers config document (front ++ log) := by
  have hregistrations : registrations (front ++ log) = registrations log := by
    rw [registrations_append, hfront.registrations_eq, List.nil_append]
  refine ⟨?_, ?_, ?_⟩
  · rw [hregistrations]
    exact hlog.own
  · rw [hregistrations]
    exact hlog.nodup
  · rw [hregistrations]
    exact fun hne => List.mem_append_right _ (hlog.made hne)

theorem storeAll_registers [Toolkit] {pictures : List Picture} {outcome : Outcome}
    (h : Script.Ends (storeAll config document pictures) log outcome) :
    Registers config document log := by
  rcases storeAll_ends h with ⟨rfl, -⟩ | ⟨treated, final, front, hall, rfl, -⟩
  · exact ⟨List.forall_mem_nil _, List.nodup_nil, fun hne => absurd rfl hne⟩
  · have hsafe : ∀ one ∈ treated, FileName.IsSafe one.name.toList := by
      intro one hone
      refine isSafe_fileNames pictures one.name ?_
      have hmem := List.mem_map_of_mem (f := Treated.name) hone
      rwa [hall.names_eq] at hmem
    have hnames : treated.Pairwise fun one other => one.name ≠ other.name := by
      have hnodup : (treated.map Treated.name).Nodup := by
        rw [hall.names_eq]
        exact (UniqueNames.claimAll_fresh _ _).1.of_map
      exact List.pairwise_map.1 hnodup
    have hregistrations := hall.registrations_eq final.files
    refine ⟨?_, ?_, ?_⟩
    · rw [hregistrations]
      intro entry hentry
      rcases List.mem_filterMap.1 hentry with ⟨one, hone, hregistered⟩
      rcases Option.map_eq_some_iff.1 hregistered with ⟨file, -, rfl⟩
      exact ⟨rfl, one.name, hsafe one hone, rfl⟩
    · -- The names differ, and a path tells the name.
      rw [hregistrations, List.Nodup, List.pairwise_map, List.pairwise_filterMap]
      refine hnames.imp_of_mem ?_
      intro one other hone hother hne entry hentry otherEntry hotherEntry hpath
      rcases Option.map_eq_some_iff.1 hentry with ⟨file, -, rfl⟩
      rcases Option.map_eq_some_iff.1 hotherEntry with ⟨otherFile, -, rfl⟩
      exact hne (Descriptor.pathInCase_inj (Document.isSafe_uniqueName document).slash_notMem
        (hsafe one hone).slash_notMem hpath).2
    · intro hne
      have hpictures : pictures ≠ [] := by
        intro hnil
        have htreated := hall.pictures_eq
        rw [hnil, List.map_eq_nil_iff] at htreated
        exact hne (by rw [hregistrations, htreated]; rfl)
      rw [hall.log_eq, if_neg hpictures]
      exact List.mem_cons_self ..

/-- Whichever course a document takes, it registers pictures of its own only. -/
theorem Course.registers [Toolkit] {outcome : Outcome} (h : Course config document log outcome) :
    Registers config document log := by
  rcases h.isQuiet_or_stored with hquiet | ⟨front, back, pictures, hfront, rfl, hstored⟩
  · exact .of_isQuiet hquiet
  · exact .append hfront (storeAll_registers hstored)

end Registered

/-! ## Sessions -/

/-- A log whose registered pictures have different paths in the case, each below a document that is
remembered. -/
structure Settled (config : Config) (log : List Exchange) : Prop where
  nodup : ((registrations log).map fun entry => entry.1.casePath).Nodup
  remembered : ∀ entry ∈ registrations log, ∃ (document : Document) (name : String),
    Remembers config document log ∧ entry.1.casePath =
      Descriptor.pathInCase config.relativeDirectory document.uniqueName name

section Sessions

variable {config : Config} {document other : Document} {past log later : List Exchange}

theorem Remembers.of_uniqueName_eq (h : Remembers config document past)
    (hname : document.uniqueName = other.uniqueName) : Remembers config other past := by
  rcases h.registered with ⟨entry, hentry, hparent⟩
  refine ⟨⟨entry, hentry, hparent.trans (Document.id_eq_of_uniqueName_eq hname)⟩, ?_⟩
  have hdirectory : outputDirectory config document = outputDirectory config other := by
    rw [outputDirectory, outputDirectory, hname]
  exact hdirectory ▸ h.made

theorem Registers.remembers (h : Registers config document log) (hne : registrations log ≠ []) :
    Remembers config document log := by
  rcases List.exists_mem_of_ne_nil _ hne with ⟨entry, hentry⟩
  exact ⟨⟨entry, hentry, (h.own entry hentry).1⟩, h.made hne⟩

/-- A run on a document keeps a settled log settled. -/
theorem Settled.append_run [Toolkit] {outcome : Outcome} (hpast : Settled config past)
    (hcourse : Course config document log outcome) (htruthful : Truthful (past ++ log ++ later)) :
    Settled config (past ++ log) := by
  have hregisters := hcourse.registers
  refine ⟨?_, ?_⟩
  · rw [registrations_append, List.map_append, List.nodup_append]
    refine ⟨hpast.nodup, hregisters.nodup, ?_⟩
    intro path hbefore otherPath hnow heq
    rcases List.mem_map.1 hbefore with ⟨entry, hentry, rfl⟩
    rcases List.mem_map.1 hnow with ⟨newEntry, hnewEntry, rfl⟩
    rcases hpast.remembered entry hentry with ⟨earlier, name, hremembers, hpath⟩
    rcases (hregisters.own newEntry hnewEntry).2 with ⟨newName, hnewName, hnewPath⟩
    -- A path that was registered before would be one of the same document.
    have hname : document.uniqueName = earlier.uniqueName := by
      have hsame : Descriptor.pathInCase config.relativeDirectory document.uniqueName newName =
          Descriptor.pathInCase config.relativeDirectory earlier.uniqueName name := by
        rw [← hnewPath, ← heq, hpath]
      exact (Descriptor.pathInCase_inj (Document.isSafe_uniqueName document).slash_notMem
        hnewName.slash_notMem hsame).1
    have hquiet := (hcourse.of_remembers (hremembers.of_uniqueName_eq hname.symm) htruthful).1
    rw [hquiet.registrations_eq] at hnewEntry
    cases hnewEntry
  · intro entry hentry
    rw [registrations_append] at hentry
    rcases List.mem_append.1 hentry with hbefore | hnow
    · rcases hpast.remembered entry hbefore with ⟨earlier, name, hremembers, hpath⟩
      exact ⟨earlier, name, hremembers.mono (List.subset_append_left ..), hpath⟩
    · rcases (hregisters.own entry hnow).2 with ⟨name, -, hpath⟩
      have hremembers := hregisters.remembers (List.ne_nil_of_mem hnow)
      exact ⟨document, name, hremembers.mono (List.subset_append_right ..), hpath⟩

theorem Settled.append_runs [Toolkit] {runs : List Run} (hpast : Settled config past)
    (hcourses : ∀ run ∈ runs, Course config run.document run.log run.outcome)
    (htruthful : Truthful (past ++ runs.flatMap Run.log)) :
    Settled config (past ++ runs.flatMap Run.log) := by
  -- The runs in front become part of the past.
  induction runs generalizing past with
  | nil => simpa using hpast
  | cons run runs ih =>
      rcases List.forall_mem_cons.1 hcourses with ⟨hrun, hruns⟩
      rw [List.flatMap_cons, ← List.append_assoc] at htruthful ⊢
      exact ih (hpast.append_run hrun htruthful) hruns htruthful

variable {σ : Type}

/-- Over a session of truthful surroundings, all paths in the case at which pictures are registered
differ.  Once a picture of a document was registered, a later run on a document of that unique name
is over as soon as its type is known to be supported, and changes nothing. -/
theorem session_registers_once [Toolkit] (answer : σ → (request : Request) → request.Answer × σ)
    (config : Config) (documents : List Document) (state : σ)
    (htruthful : Truthful ((session answer config documents state).flatMap Run.log)) :
    ((registrations ((session answer config documents state).flatMap Run.log)).map
        fun entry => entry.1.casePath).Nodup ∧
      ∀ before first between later after,
        session answer config documents state = before ++ first :: between ++ later :: after →
        registrations first.log ≠ [] →
        later.document.uniqueName = first.document.uniqueName →
        later.outcome ≠ .unsupported → later.outcome = .alreadyDone ∧ IsQuiet later.log := by
  have hcourses := fun run (hrun : run ∈ session answer config documents state) =>
    course_of_mem_session hrun
  refine ⟨?_, ?_⟩
  · have hsettled : Settled config [] :=
      ⟨List.nodup_nil, fun entry hentry => absurd hentry List.not_mem_nil⟩
    exact (hsettled.append_runs hcourses htruthful).nodup
  · intro before first between later after hsession hregistered hname hsupported
    rw [hsession] at hcourses htruthful
    have hfirst : Course config first.document first.log first.outcome :=
      hcourses first (by simp)
    have hlater : Course config later.document later.log later.outcome :=
      hcourses later (by simp)
    have hremembers : Remembers config later.document
        (before.flatMap Run.log ++ first.log ++ between.flatMap Run.log) := by
      refine ((hfirst.registers.remembers hregistered).of_uniqueName_eq hname.symm).mono ?_
      intro exchange hexchange
      simp [hexchange]
    -- The later run is answered after all that the first one left behind.
    have hwhole : (before ++ first :: between ++ later :: after).flatMap Run.log =
        before.flatMap Run.log ++ first.log ++ between.flatMap Run.log ++ later.log ++
          after.flatMap Run.log := by
      simp
    rcases hlater.of_remembers hremembers (hwhole ▸ htruthful) with ⟨hquiet, hunsupported | hdone⟩
    · exact absurd hunsupported hsupported
    · exact ⟨hdone, hquiet⟩

end Sessions

/-! ## Surroundings with a memory -/

/-- What surroundings remember: the documents of which pictures were registered, and the directories
that were made. -/
structure Memory where
  parents : List Nat
  directories : List String

/-- Surroundings that take every document for a slideshow, never fail and remember what they are
asked about. -/
def Memory.answer (memory : Memory) : (request : Request) → request.Answer × Memory
  | .mimeType _ => (some DocumentFormat.ppt.mimeType, memory)
  | .hasDerivedFiles document => (.ok (memory.parents.contains document.id), memory)
  | .pathExists path => (memory.directories.contains path, memory)
  | .content document =>
      match document.source with
      | .memory content => (some content, memory)
      | .file _ => (none, memory)
  | .makeDirectory path => (true, { memory with directories := path :: memory.directories })
  | .writeFile _ _ => (true, memory)
  | .register descriptor =>
      (some ⟨0, descriptor.fileName, descriptor.casePath, descriptor.parentId⟩,
        { memory with parents := descriptor.parentId :: memory.parents })
  | .notify _ => ((), memory)
  | .addToJob _ => ((), memory)

theorem Memory.grows (memory : Memory) (request : Request) :
    memory.parents ⊆ (memory.answer request).2.parents ∧
      memory.directories ⊆ (memory.answer request).2.directories := by
  cases request with
  | content document =>
      rcases document with ⟨id, name, content | path⟩
      · exact ⟨List.Subset.refl _, List.Subset.refl _⟩
      · exact ⟨List.Subset.refl _, List.Subset.refl _⟩
  | makeDirectory path => exact ⟨List.Subset.refl _, List.subset_cons_self _ _⟩
  | register descriptor => exact ⟨List.subset_cons_self _ _, List.Subset.refl _⟩
  | _ => exact ⟨List.Subset.refl _, List.Subset.refl _⟩

theorem Memory.grows_answered {memory final : Memory} {log : List Exchange}
    (h : Script.Answered Memory.answer memory log final) :
    memory.parents ⊆ final.parents ∧ memory.directories ⊆ final.directories := by
  induction h with
  | nil memory => exact ⟨List.Subset.refl _, List.Subset.refl _⟩
  | @cons memory final request log _ ih =>
      rcases memory.grows request with ⟨hparents, hdirectories⟩
      exact ⟨List.Subset.trans hparents ih.1, List.Subset.trans hdirectories ih.2⟩

theorem Memory.knows {memory final : Memory} {log : List Exchange}
    (h : Script.Answered Memory.answer memory log final) {exchange : Exchange}
    (hmem : exchange ∈ log) :
    (∀ entry ∈ exchange.registration?, entry.1.parentId ∈ final.parents) ∧
      ∀ path, exchange = ⟨.makeDirectory path, true⟩ → path ∈ final.directories := by
  induction h with
  | nil memory => cases hmem
  | @cons memory final request log hrest ih =>
      rcases List.mem_cons.1 hmem with rfl | hlater
      · rcases Memory.grows_answered hrest with ⟨hparents, hdirectories⟩
        -- Only two requests are remembered, each in a list of its own.
        cases request with
        | makeDirectory path =>
            refine ⟨?_, ?_⟩
            · rintro entry ⟨⟩
            · rintro _ ⟨⟩
              exact hdirectories (List.mem_cons_self ..)
        | register descriptor =>
            refine ⟨?_, ?_⟩
            · rintro _ ⟨⟩
              exact hparents (List.mem_cons_self ..)
            · rintro path ⟨⟩
        | _ =>
            refine ⟨?_, ?_⟩
            · rintro entry ⟨⟩
            · rintro path ⟨⟩
      · exact ih hlater

/-- Surroundings with a memory are truthful in every session. -/
theorem Memory.truthful [Toolkit] (config : Config) (documents : List Document) (memory : Memory) :
    Truthful ((session Memory.answer config documents memory).flatMap Run.log) := by
  rcases answered_session Memory.answer config documents memory with ⟨final, hanswered⟩
  refine ⟨?_, ?_⟩
  · rintro before after document reply hlog ⟨entry, hentry, hparent⟩
    rw [hlog] at hanswered
    rcases Script.answered_append.1 hanswered with ⟨middle, hbefore, hrest⟩
    rcases List.mem_filterMap.1 hentry with ⟨exchange, hexchange, hregistered⟩
    have hknown := (Memory.knows hbefore hexchange).1 entry hregistered
    rw [hparent] at hknown
    have hreply : Except.ok (middle.parents.contains document.id) = reply :=
      (Script.answered_cons.1 hrest).1
    rw [← hreply, List.contains_iff_mem.2 hknown]
  · intro before after path isThere hlog hmade
    rw [hlog] at hanswered
    rcases Script.answered_append.1 hanswered with ⟨middle, hbefore, hrest⟩
    have hknown := (Memory.knows hbefore hmade).2 path rfl
    have hreply : middle.directories.contains path = isThere := (Script.answered_cons.1 hrest).1
    rw [← hreply, List.contains_iff_mem.2 hknown]

theorem Memory.answer_mimeType (memory : Memory) (document : Document) :
    memory.answer (.mimeType document) = (some DocumentFormat.ppt.mimeType, memory) :=
  rfl

/-! ## A session of presentations -/

/-- A presentation, another one, and the first one under a name that leads to the same unique name;
all names are hostile. -/
def slidesDocuments : List Document :=
  [⟨1, "a/b.ppt", .memory Container.slides⟩, ⟨11, "..\\b.ppt", .memory Container.slides⟩,
    ⟨1, "a_b.ppt ", .memory Container.slides⟩]

theorem storeAll_slides [Toolkit] (id : Nat) (name : String) (memory : Memory) :
    let document : Document := ⟨id, name, .memory Container.slides⟩
    let script := storeAll narrowConfig document [Container.slidesPicture]
    script.run Memory.answer memory =
        (.extracted 1 1,
          ⟨id :: memory.parents, outputDirectory narrowConfig document :: memory.directories⟩) ∧
      (registrations (script.log Memory.answer memory)).map (fun entry => entry.2.parentId) = [id] :=
  ⟨rfl, rfl⟩

/-- The picture of a presentation that is not remembered is registered. -/
theorem extract_slides [Toolkit] (id : Nat) (name : String) (memory : Memory)
    (hnew : memory.parents.contains id = false) :
    let document : Document := ⟨id, name, .memory Container.slides⟩
    let script := extract narrowConfig document
    script.run Memory.answer memory =
        (.extracted 1 1,
          ⟨id :: memory.parents, outputDirectory narrowConfig document :: memory.directories⟩) ∧
      (registrations (script.log Memory.answer memory)).map (fun entry => entry.2.parentId) =
        [id] := by
  intro document script
  have hformat : DocumentFormat.ofMimeType? DocumentFormat.ppt.mimeType = some .ppt := by
    decide +kernel
  have hderived : memory.answer (.hasDerivedFiles document) = (.ok false, memory) := by
    rw [Memory.answer, hnew]
  have hcontent : memory.answer (.content document) = (some Container.slides, memory) := rfl
  have hpictures : Container.content .ppt Container.slides narrowConfig.limits =
      .pictures [Container.slidesPicture] := Container.content_slides
  rcases extract_of_pictures (memory.answer_mimeType document) hformat hderived hcontent hpictures
    with ⟨hrun, hlog⟩
  rcases storeAll_slides id name memory with ⟨hstored, hregistered⟩
  refine ⟨hrun.trans hstored, ?_⟩
  rw [hlog]
  exact hregistered

theorem session_slides : ∃ first second third : Run,
    session Memory.answer narrowConfig slidesDocuments ⟨[], []⟩ = [first, second, third] ∧
      registrations first.log ≠ [] ∧ registrations second.log ≠ [] ∧
      third.document.uniqueName = first.document.uniqueName ∧ third.outcome ≠ .unsupported := by
  rcases extract_slides 1 "a/b.ppt" ⟨[], []⟩ rfl with ⟨hfirst, hfirstOnce⟩
  rcases extract_slides 11 "..\\b.ppt"
    ⟨[1], [outputDirectory narrowConfig ⟨1, "a/b.ppt", .memory Container.slides⟩]⟩ (by decide) with
    ⟨hsecond, hsecondOnce⟩
  rw [slidesDocuments, session, session, session, session, hfirst, hsecond]
  refine ⟨_, _, _, rfl, ?_, ?_, ?_, ?_⟩
  · intro hnone
    rw [hnone] at hfirstOnce
    cases hfirstOnce
  · intro hnone
    rw [hnone] at hsecondOnce
    cases hsecondOnce
  · decide +kernel
  · decide +kernel

theorem session_registers_once_slides :
    Truthful ((session Memory.answer narrowConfig slidesDocuments ⟨[], []⟩).flatMap Run.log) ∧
      ((registrations
          ((session Memory.answer narrowConfig slidesDocuments ⟨[], []⟩).flatMap Run.log)).map
        fun entry => entry.1.casePath).Nodup ∧
      ∃ first second third : Run,
        session Memory.answer narrowConfig slidesDocuments ⟨[], []⟩ = [first, second, third] ∧
        registrations first.log ≠ [] ∧ registrations second.log ≠ [] ∧
        third.outcome = .alreadyDone ∧ IsQuiet third.log := by
  have htruthful := Memory.truthful narrowConfig slidesDocuments ⟨[], []⟩
  rcases session_registers_once Memory.answer narrowConfig slidesDocuments ⟨[], []⟩ htruthful with
    ⟨hnodup, honce⟩
  rcases session_slides with ⟨first, second, third, hsession, hfirst, hsecond, hname, hsupported⟩
  have hthird := honce [] first [second] third [] hsession hfirst hname hsupported
  exact ⟨htruthful, hnodup, first, second, third, hsession, hfirst, hsecond, hthird⟩

end Extraction
end OfficePictures
