import OfficePictures.Proofs.Extraction.Siblings
import OfficePictures.Proofs.Sink.FileSystem

/-!
# History — one sink and others on one file system

A sink is called many times, and in between others do to the file system whatever they like: they
may free the way for a directory, remove it again, or write to the files in it.

* `Call`, `Event`, `history` — the calls of a sink with what they end with, among other changes;
* `Ending` — all that a call can do;
* `history_eq_append` — first calls that find no directory, and then calls that have one;
* `IsStored` — the file of a picture, and no other file, is different behind a call;
* `history_of_sink` — all of this together.
-/

namespace OfficePictures
namespace Sink

open Script

variable {σ : Type}

/-! ## Calls -/

/-- What a sink is called for. -/
inductive Call
  | prepare
  | write (name : String) (content : Bytes)

/-- What a call gives if it succeeds. -/
@[reducible] def Call.Value : Call → Type
  | prepare => Unit
  | write _ _ => String

def Call.script (sink : Sink) : (call : Call) → Script (Except SinkFault call.Value × Sink)
  | prepare => sink.prepare
  | write name content => sink.write name content

/-- What happens on a file system: a sink is called, or others change something. -/
inductive Event (σ : Type)
  | call (call : Call)
  | change (change : σ → σ)

/-- A call that is over, with the states around it and what was asked in between. -/
structure Finished (σ : Type) where
  call : Call
  before : σ
  result : Except SinkFault call.Value
  log : List Exchange
  after : σ

/-- The calls of a sink among other changes, each with what it ended with. -/
def history (answer : σ → (request : Request) → request.Answer × σ) :
    Sink → σ → List (Event σ) → List (Finished σ)
  | _, _, [] => []
  | sink, state, .change change :: events => history answer sink (change state) events
  | sink, state, .call call :: events =>
      let ((result, next), after) := (call.script sink).run answer state
      ⟨call, state, result, (call.script sink).log answer state, after⟩ ::
        history answer next after events

/-! ## What a call can do -/

/-- All that a call can do: what it asks and is answered, what it ends with, and the sink behind
it. -/
inductive Ending (sink : Sink) :
    (call : Call) → List Exchange → Except SinkFault call.Value → Sink → Prop
  | unmade (call : Call) (h : sink.isPrepared = false) :
      Ending sink call [⟨.makeDirectory sink.directory, false⟩] (.error .directoryNotMade) sink
  | prepared : Ending sink .prepare sink.opening (.ok ()) sink.prepared
  | unwritten (name : String) (content : Bytes) :
      Ending sink (.write name content)
        (sink.opening ++ [⟨.writeFile (sink.pathOf name) (Encoded.encode content), false⟩])
        (.error .fileNotWritten) sink.prepared
  | written (name : String) (content : Bytes) :
      Ending sink (.write name content)
        (sink.opening ++ [⟨.writeFile (sink.pathOf name) (Encoded.encode content), true⟩])
        (.ok (sink.pathOf name)) sink.prepared

theorem Call.ending {sink : Sink} {call : Call} {log : List Exchange}
    {result : Except SinkFault call.Value × Sink} (h : Ends (call.script sink) log result) :
    Ending sink call log result.1 result.2 := by
  cases call with
  | prepare =>
      rcases prepare_ends h with ⟨hprepared, rfl, rfl⟩ | ⟨rfl, rfl⟩
      · exact .unmade _ hprepared
      · exact .prepared
  | write name content =>
      rcases write_ends h with ⟨hprepared, rfl, rfl⟩ | ⟨rfl, rfl⟩ | ⟨rfl, rfl⟩
      · exact .unmade _ hprepared
      · exact .unwritten name content
      · exact .written name content

/-- A success, or a picture that is not written though there is a directory. -/
inductive IsOkOrWrite : (call : Call) → Except SinkFault call.Value → Prop
  | prepared : IsOkOrWrite .prepare (.ok ())
  | written (name : String) (content : Bytes) (path : String) :
      IsOkOrWrite (.write name content) (.ok path)
  | unwritten (name : String) (content : Bytes) :
      IsOkOrWrite (.write name content) (.error .fileNotWritten)

/-- No directory is asked for. -/
def AsksNoDirectory (log : List Exchange) : Prop :=
  ∀ exchange ∈ log, ∀ path, exchange.request ≠ .makeDirectory path

/-- A call that has a directory asks for none behind its opening. -/
theorem Ending.cases_result {sink next : Sink} {call : Call} {log : List Exchange}
    {result : Except SinkFault call.Value} (h : Ending sink call log result next) :
    (sink.isPrepared = false ∧ log = [⟨.makeDirectory sink.directory, false⟩] ∧
        result = .error .directoryNotMade ∧ next = sink) ∨
      ∃ own, log = sink.opening ++ own ∧ AsksNoDirectory own ∧ IsOkOrWrite call result ∧
        next = sink.prepared := by
  have hwrite : ∀ (path : String) (content : Bytes) (done : Bool),
      AsksNoDirectory [⟨.writeFile path content, done⟩] := by
    intro path content done exchange hmem directory
    rw [List.mem_singleton.1 hmem]
    exact nofun
  cases h with
  | unmade call hprepared => exact .inl ⟨hprepared, rfl, rfl, rfl⟩
  | prepared => exact .inr ⟨[], (List.append_nil _).symm, List.forall_mem_nil _, .prepared, rfl⟩
  | unwritten name content => exact .inr ⟨_, rfl, hwrite _ _ _, .unwritten name content, rfl⟩
  | written name content => exact .inr ⟨_, rfl, hwrite _ _ _, .written name content _, rfl⟩

/-! ## What a history is made of -/

section History

variable {answer : σ → (request : Request) → request.Answer × σ} {sink : Sink} {state : σ}
  {events : List (Event σ)}

/-- A call is over before anything else happens. -/
theorem exists_history_call (answer : σ → (request : Request) → request.Answer × σ) (sink : Sink)
    (state : σ) (call : Call) (events : List (Event σ)) :
    ∃ (finished : Finished σ) (next : Sink),
      history answer sink state (.call call :: events) =
          finished :: history answer next finished.after events ∧
        Ending sink finished.call finished.log finished.result next ∧
        Answered answer finished.before finished.log finished.after := by
  have hending := Call.ending (ends_log answer (call.script sink) state)
  have hanswered := answered_log answer (call.script sink) state
  rw [history]
  generalize (call.script sink).run answer state = ended at hending hanswered ⊢
  rcases ended with ⟨⟨result, next⟩, after⟩
  exact ⟨⟨call, state, result, _, after⟩, next, rfl, hending, hanswered⟩

/-- Every call is one of a sink with the same directory. -/
theorem exists_ending_of_mem_history {finished : Finished σ}
    (h : finished ∈ history answer sink state events) :
    ∃ earlier next : Sink, earlier.directory = sink.directory ∧
      Ending earlier finished.call finished.log finished.result next ∧
      Answered answer finished.before finished.log finished.after := by
  induction events generalizing sink state with
  | nil => cases h
  | cons event events ih =>
      cases event with
      | change change => exact ih h
      | call call =>
          rcases exists_history_call answer sink state call events with
            ⟨first, next, hhistory, hending, hanswered⟩
          rw [hhistory] at h
          rcases List.mem_cons.1 h with rfl | hlater
          · exact ⟨sink, next, rfl, hending, hanswered⟩
          · have hdirectory : next.directory = sink.directory := by
              rcases hending.cases_result with ⟨-, -, -, rfl⟩ | ⟨_, -, -, -, rfl⟩ <;> rfl
            rcases ih hlater with ⟨earlier, last, hsame, hrest⟩
            exact ⟨earlier, last, hsame.trans hdirectory, hrest⟩

/-- A sink that has its directory never asks for it again. -/
theorem history_of_isPrepared (hprepared : sink.isPrepared = true) :
    ∀ finished ∈ history answer sink state events,
      IsOkOrWrite finished.call finished.result ∧ AsksNoDirectory finished.log := by
  induction events generalizing sink state with
  | nil => exact List.forall_mem_nil _
  | cons event events ih =>
      cases event with
      | change change => exact ih hprepared
      | call call =>
          rcases exists_history_call answer sink state call events with
            ⟨first, next, hhistory, hending, -⟩
          rw [hhistory]
          have hopening : sink.opening = [] := if_pos hprepared
          rcases hending.cases_result with ⟨hunprepared, -⟩ | ⟨own, hlog, hown, hresult, rfl⟩
          · rw [hprepared] at hunprepared
            cases hunprepared
          · rw [hopening, List.nil_append] at hlog
            exact List.forall_mem_cons.2 ⟨⟨hresult, hlog ▸ hown⟩, ih rfl⟩

/-- The first calls of a sink fail to make its directory, each of them anew, until one succeeds; all
later ones have it. -/
theorem history_eq_append (hunprepared : sink.isPrepared = false) :
    ∃ failed rest, history answer sink state events = failed ++ rest ∧
      (∀ finished ∈ failed, finished.result = .error .directoryNotMade ∧
        finished.log = [⟨.makeDirectory sink.directory, false⟩]) ∧
      (∀ finished ∈ rest, IsOkOrWrite finished.call finished.result) ∧
      ∀ first later, rest = first :: later →
        (∃ own, first.log = ⟨.makeDirectory sink.directory, true⟩ :: own ∧ AsksNoDirectory own) ∧
          ∀ finished ∈ later, AsksNoDirectory finished.log := by
  induction events generalizing state with
  | nil => exact ⟨[], [], rfl, List.forall_mem_nil _, List.forall_mem_nil _, nofun⟩
  | cons event events ih =>
      cases event with
      | change change => exact ih
      | call call =>
          rcases exists_history_call answer sink state call events with
            ⟨first, next, hhistory, hending, -⟩
          rw [hhistory]
          rcases hending.cases_result with ⟨-, hlog, hresult, rfl⟩ | ⟨own, hlog, hown, hresult, rfl⟩
          · -- The sink is as before, so the next call tries again.
            rcases @ih first.after with ⟨failed, rest, heq, hfailed, hrest⟩
            exact ⟨first :: failed, rest, by rw [heq, List.cons_append],
              List.forall_mem_cons.2 ⟨⟨hresult, hlog⟩, hfailed⟩, hrest⟩
          · have hopening : sink.opening = [⟨.makeDirectory sink.directory, true⟩] := by
              rw [opening, hunprepared]
              rfl
            have hlater : ∀ finished ∈ history answer sink.prepared first.after events,
                IsOkOrWrite finished.call finished.result ∧ AsksNoDirectory finished.log :=
              history_of_isPrepared rfl
            refine ⟨[], _, rfl, List.forall_mem_nil _, ?_, ?_⟩
            · exact List.forall_mem_cons.2 ⟨hresult, fun finished hmem => (hlater finished hmem).1⟩
            · rintro _ _ ⟨⟩
              refine ⟨⟨own, ?_, hown⟩, fun finished hmem => (hlater finished hmem).2⟩
              rw [hlog, hopening]
              rfl

end History

/-! ## What a call does to files -/

section Effects

variable {answer : σ → (request : Request) → request.Answer × σ} {files : FileSystem σ}
  {sink next : Sink} {before after : σ} {log : List Exchange}

theorem answered_singleton {request : Request} {reply : request.Answer} :
    Answered answer before [⟨request, reply⟩] after ↔
      (answer before request).1 = reply ∧ after = (answer before request).2 := by
  rw [answered_cons]
  constructor
  · rintro ⟨hreply, hrest⟩
    cases hrest
    exact ⟨hreply, rfl⟩
  · rintro ⟨hreply, rfl⟩
    exact ⟨hreply, .nil _⟩

/-- Making a directory changes no file, whether it can be made or not. -/
theorem sameBut_of_makeDirectory (hserves : files.Serves answer) {path : String} {made : Bool}
    (h : Answered answer before [⟨.makeDirectory path, made⟩] after) :
    files.SameBut none before after := by
  rcases answered_singleton.1 h with ⟨-, rfl⟩
  rw [hserves.makeDirectory_eq]
  exact files.makeDirectory_sameBut before path

theorem sameBut_of_opening (hserves : files.Serves answer)
    (h : Answered answer before sink.opening after) : files.SameBut none before after := by
  unfold opening at h
  split at h
  · cases h
    exact ⟨fun _ _ => rfl, fun _ _ _ hpath => hpath⟩
  · exact sameBut_of_makeDirectory hserves h

/-- Behind a picture that was written there is its file, and no other file is different. -/
theorem Ending.stored (hserves : files.Serves answer) {name path : String} {content : Bytes}
    (h : Ending sink (.write name content) log (.ok path) next)
    (hanswered : Answered answer before log after) :
    path = sink.pathOf name ∧ ∃ file,
      files.Holds after path file (Encoded.encode content) ∧
        files.SameBut (some file) before after := by
  cases h with
  | written name content =>
      rcases answered_append.1 hanswered with ⟨middle, hopening, hwrite⟩
      have hdone := answered_singleton.1 hwrite
      rw [hserves.writeFile_eq] at hdone
      rcases FileSystem.writeFile_holds hdone.1 with ⟨file, hholds, hsame⟩
      rw [← hdone.2] at hholds hsame
      exact ⟨rfl, file, hholds, (sameBut_of_opening hserves hopening).of_none.trans hsame⟩

theorem Ending.sameBut (hserves : files.Serves answer) {call : Call}
    {result : Except SinkFault call.Value} (h : Ending sink call log result next)
    (hresult : result = .error .directoryNotMade) (hanswered : Answered answer before log after) :
    files.SameBut none before after := by
  cases h with
  | unmade call _ => exact sameBut_of_makeDirectory hserves hanswered
  | prepared => cases hresult
  | unwritten name content => cases hresult
  | written name content => cases hresult

end Effects

/-! ## Paths -/

/-- The path of a name in a directory: the name alone if the path of the directory is empty, and
else the name behind a slash. -/
inductive IsJoined (directory name : String) : String → Prop
  | bare (hdirectory : directory = "") : IsJoined directory name name
  | closed (hdirectory : directory.toList.getLast? = some '/') :
      IsJoined directory name (directory ++ name)
  | opened (hne : directory ≠ "") (hdirectory : directory.toList.getLast? ≠ some '/') :
      IsJoined directory name (directory ++ "/" ++ name)

theorem isJoined_pathOf (sink : Sink) {name : String}
    (hname : Extraction.IsEntryName name.toList) :
    IsJoined sink.directory name (sink.pathOf name) := by
  have hhead : name.toList.head? ≠ some '/' := fun h => hname.slash_notMem (List.mem_of_head? h)
  by_cases hempty : sink.directory = ""
  · have hpath : sink.pathOf name = name := by
      simp [pathOf, joinPath, hempty]
    rw [hpath]
    exact .bare hempty
  · have hne : sink.directory.toList ≠ [] := by
      simpa using hempty
    by_cases hlast : sink.directory.toList.getLast? = some '/'
    · have hpath : sink.pathOf name = sink.directory ++ name := by
        simp [pathOf, joinPath, hhead, hne, hlast]
      rw [hpath]
      exact .closed hlast
    · have hpath : sink.pathOf name = sink.directory ++ "/" ++ name := by
        rw [← String.toList_inj]
        simp [pathOf, joinPath, hhead, hne, hlast]
      rw [hpath]
      exact .opened hempty hlast

/-! ## Whole histories -/

/-- One sink over any history of calls and of changes by others, on any file system whose steps may
fail.  First there are calls that fail to make the directory, each of which tries it anew; the call
that makes it and all later ones succeed or fail to write their file only, and the directory is never
asked for again, whatever became of it.  A call that fails to make the directory makes and changes
no file.  A picture that is written leaves its file at the path of its name in the directory, where
exactly its content is read back whatever was there before, and no other file is different. -/
theorem history_of_sink {files : FileSystem σ}
    {answer : σ → (request : Request) → request.Answer × σ} (hserves : files.Serves answer)
    (directory : String) (state : σ) (events : List (Event σ)) :
    (∃ failed rest, history answer (ofDirectory directory) state events = failed ++ rest ∧
      (∀ finished ∈ failed, finished.result = .error .directoryNotMade ∧
        finished.log = [⟨.makeDirectory directory, false⟩]) ∧
      (∀ finished ∈ rest, IsOkOrWrite finished.call finished.result) ∧
      ∀ first later, rest = first :: later →
        (∃ own, first.log = ⟨.makeDirectory directory, true⟩ :: own ∧ AsksNoDirectory own) ∧
          ∀ finished ∈ later, AsksNoDirectory finished.log) ∧
    (∀ finished ∈ history answer (ofDirectory directory) state events,
      finished.result = .error .directoryNotMade →
        files.SameBut none finished.before finished.after) ∧
    ∀ (name : String) (content : Bytes) (before : σ) (path : String) (log : List Exchange)
      (after : σ), ⟨.write name content, before, .ok path, log, after⟩ ∈
          history answer (ofDirectory directory) state events →
        (Extraction.IsEntryName name.toList → IsJoined directory name path) ∧
          ∃ file bytes, files.Holds after path file bytes ∧
            Encoded.decode? bytes = some content ∧ files.SameBut (some file) before after := by
  refine ⟨history_eq_append rfl, ?_, ?_⟩
  · intro finished hmem hresult
    rcases exists_ending_of_mem_history hmem with ⟨earlier, next, -, hending, hanswered⟩
    exact hending.sameBut hserves hresult hanswered
  · intro name content before path log after hmem
    rcases exists_ending_of_mem_history hmem with ⟨earlier, next, hsame, hending, hanswered⟩
    rcases hending.stored hserves hanswered with ⟨rfl, file, hholds, hothers⟩
    have hdirectory : earlier.directory = directory := hsame
    refine ⟨?_, file, _, hholds, Encoded.decode?_encode content, hothers⟩
    intro hname
    rw [← hdirectory]
    exact isJoined_pathOf earlier hname

/-! ## A directory that comes and goes -/

namespace Finished

/-- The name and the content of the file that was to be written. -/
def file? (finished : Finished σ) : Option (String × Bytes) :=
  match finished.call with
  | .prepare => none
  | .write name content => some (name, content)

def fault? (finished : Finished σ) : Option SinkFault :=
  match finished.result with
  | .ok _ => none
  | .error fault => some fault

end Finished

/-- Others put something else in the place of the whole disk. -/
def replaceDisk (disk : Disk) : Event Case :=
  .change fun current => { current with disk }

/-- A file is in the way of the directory until others remove it; later they remove the directory,
too. -/
def siege : List (Event Case) :=
  [replaceDisk (Disk.empty.put ["EFE".toList] (.file [1])),
    .call .prepare, .call (.write "image_0.png" [1, 2, 3]), replaceDisk Disk.empty,
    .call (.write "image_0.png" [1, 2, 3]), .call (.write "image_0.png" [9]),
    replaceDisk Disk.empty, .call (.write "image_1.png" [4]), .call .prepare]

theorem history_siege :
    (history Case.answer (ofDirectory "EFE/1_a.xls") (Case.start .failing) siege).map
        (fun finished => (finished.file?, finished.fault?)) =
      [(none, some .directoryNotMade), (some ("image_0.png", [1, 2, 3]), some .directoryNotMade),
        (some ("image_0.png", [1, 2, 3]), none), (some ("image_0.png", [9]), none),
        (some ("image_1.png", [4]), some .fileNotWritten), (none, none)] := by
  decide +kernel

theorem exists_mem_history_siege : ∃ before path log after,
    ⟨.write "image_0.png" [9], before, .ok path, log, after⟩ ∈
      history Case.answer (ofDirectory "EFE/1_a.xls") (Case.start .failing) siege := by
  have hshorter : (some ("image_0.png", [9]), none) ∈
      (history Case.answer (ofDirectory "EFE/1_a.xls") (Case.start .failing) siege).map
        fun finished => (finished.file?, finished.fault?) := by
    rw [history_siege]
    decide +kernel
  rcases List.mem_map.1 hshorter with ⟨⟨call, before, result, log, after⟩, hmem, hpair⟩
  rcases Prod.mk.inj hpair with ⟨hfile, hfault⟩
  cases call with
  | prepare => cases hfile
  | write name content =>
      cases hfile
      cases result with
      | error fault => cases hfault
      | ok path => exact ⟨before, path, log, after, hmem⟩

/-- A shorter file in place of a longer one is stored as it should be; when others remove the
directory, it is not made again. -/
theorem history_of_sink_siege :
    ∃ (before after : Case) (log : List Exchange) (place : Place) (bytes : Bytes),
      ⟨.write "image_0.png" [9], before, .ok "EFE/1_a.xls/image_0.png", log, after⟩ ∈
          history Case.answer (ofDirectory "EFE/1_a.xls") (Case.start .failing) siege ∧
        Case.files.Holds after "EFE/1_a.xls/image_0.png" place bytes ∧
        Encoded.decode? bytes = some [9] ∧ Case.files.SameBut (some place) before after ∧
        ∃ failed first later,
          history Case.answer (ofDirectory "EFE/1_a.xls") (Case.start .failing) siege =
              failed ++ first :: later ∧
            ∀ finished ∈ later, AsksNoDirectory finished.log := by
  rcases history_of_sink Case.serves "EFE/1_a.xls" (Case.start .failing) siege with
    ⟨⟨failed, rest, hhistory, hfailed, -, hrest⟩, -, hstored⟩
  rcases exists_mem_history_siege with ⟨before, path, log, after, hmem⟩
  rcases hstored _ _ _ _ _ _ hmem with ⟨hjoined, place, bytes, hholds, hdecode, hothers⟩
  have hname : Extraction.IsEntryName "image_0.png".toList :=
    ⟨by decide +kernel, by decide +kernel, by decide +kernel, by decide +kernel⟩
  have hpath : path = "EFE/1_a.xls/image_0.png" := by
    cases hjoined hname with
    | bare hdirectory => exact absurd hdirectory (by decide +kernel)
    | closed hdirectory => exact absurd hdirectory (by decide +kernel)
    | opened _ _ => decide +kernel
  subst hpath
  refine ⟨before, after, log, place, bytes, hmem, hholds, hdecode, hothers, failed, ?_⟩
  rw [hhistory] at hmem
  cases rest with
  | nil =>
      rw [List.append_nil] at hmem
      cases (hfailed _ hmem).1
  | cons first later => exact ⟨first, later, hhistory, (hrest first later rfl).2⟩

end Sink
end OfficePictures
