import Mathlib.Data.List.Forall2
import OfficePictures.Proofs.Script.Log

/-!
# Interleaving — two scripts that ask by turns

Two scripts may ask the same surroundings, one request of the one, then some of the other.  A
schedule says whose turn it is; a script that is done lets its turns pass, and what is left when the
schedule is over is asked by the first script and then by the second.

* `Script.interleave` — the run of two scripts by a schedule, which always ends;
* `Script.Interleaved` — every way in which two scripts can ask by turns;
* `Script.interleaved_interleave`, `Script.Interleaved.exists_schedule` — schedules lead to all of
  these ways and to no others;
* `Script.Alike` — scripts that ask the same as long as they are answered alike;
* `Script.Isolates.alone` — a script that sees nothing of what the other one does ends as if it ran
  alone.
-/

namespace OfficePictures
namespace Script

variable {α β γ δ σ : Type}

/-! ## Schedules -/

inductive Side
  | first
  | second
  deriving DecidableEq, Repr

def Side.other : Side → Side
  | first => second
  | second => first

/-- What two scripts came to, the log with whose exchange each one is, and the state at the end. -/
structure Joint (α β σ : Type) where
  first : α
  second : β
  log : List (Side × Exchange)
  final : σ

/-- The exchanges of one of two scripts. -/
def logOf (side : Side) (log : List (Side × Exchange)) : List Exchange :=
  log.filterMap fun (owner, exchange) => if owner = side then some exchange else none

namespace Joint

def logOf (joint : Joint α β σ) (side : Side) : List Exchange :=
  Script.logOf side joint.log

/-- The same with an exchange in front. -/
def behind (joint : Joint α β σ) (side : Side) (exchange : Exchange) : Joint α β σ :=
  { joint with log := (side, exchange) :: joint.log }

end Joint

/-- Runs two scripts on one state by a schedule. -/
def interleave (answer : σ → (request : Request) → request.Answer × σ) :
    List Side → Script α → Script β → σ → Joint α β σ
  | .first :: schedule, ask request next, other, state =>
      let (reply, state) := answer state request
      (interleave answer schedule (next reply) other state).behind .first ⟨request, reply⟩
  | .first :: schedule, done value, other, state =>
      interleave answer schedule (done value) other state
  | .second :: schedule, script, ask request next, state =>
      let (reply, state) := answer state request
      (interleave answer schedule script (next reply) state).behind .second ⟨request, reply⟩
  | .second :: schedule, script, done value, state =>
      interleave answer schedule script (done value) state
  | [], script, other, state =>
      let (first, middle) := script.run answer state
      let (second, final) := other.run answer middle
      { first, second, final,
        log := (script.log answer state).map (Prod.mk .first) ++
          (other.log answer middle).map (Prod.mk .second) }

/-! ## Ways to ask by turns -/

section Logs

variable {side owner : Side} {exchange : Exchange} {log front back : List (Side × Exchange)}

@[simp] theorem logOf_cons_self : logOf side ((side, exchange) :: log) = exchange :: logOf side log :=
  List.filterMap_cons_some (if_pos rfl)

theorem logOf_cons_of_ne (h : owner ≠ side) : logOf side ((owner, exchange) :: log) = logOf side log :=
  List.filterMap_cons_none (if_neg h)

@[simp] theorem logOf_first_cons_second :
    logOf .first ((.second, exchange) :: log) = logOf .first log :=
  logOf_cons_of_ne nofun

@[simp] theorem logOf_second_cons_first :
    logOf .second ((.first, exchange) :: log) = logOf .second log :=
  logOf_cons_of_ne nofun

@[simp] theorem logOf_append : logOf side (front ++ back) = logOf side front ++ logOf side back :=
  List.filterMap_append

theorem logOf_map (side owner : Side) (log : List Exchange) :
    logOf side (log.map (Prod.mk owner)) = if owner = side then log else [] := by
  induction log with
  | nil => exact (ite_self _).symm
  | cons exchange log ih =>
      by_cases h : owner = side
      · subst h
        rw [List.map_cons, logOf_cons_self, ih, if_pos rfl, if_pos rfl]
      · rw [List.map_cons, logOf_cons_of_ne h, ih, if_neg h, if_neg h]

end Logs

/-- Two scripts ask one state by turns: the exchanges of each lead it to its value. -/
structure Interleaved (answer : σ → (request : Request) → request.Answer × σ) (script : Script α)
    (other : Script β) (state : σ) (joint : Joint α β σ) : Prop where
  answered : Answered answer state (joint.log.map Prod.snd) joint.final
  first : script.Ends (joint.logOf .first) joint.first
  second : other.Ends (joint.logOf .second) joint.second

section Interleaved

variable {answer : σ → (request : Request) → request.Answer × σ}

theorem Interleaved.ask_first {request : Request} {next : request.Answer → Script α}
    {other : Script β} {state : σ} {joint : Joint α β σ}
    (h : Interleaved answer (next (answer state request).1) other (answer state request).2 joint) :
    Interleaved answer (ask request next) other state
      (joint.behind .first ⟨request, (answer state request).1⟩) := by
  refine ⟨.cons h.answered, ?_, ?_⟩
  · rw [Joint.logOf, Joint.behind, logOf_cons_self]
    exact .ask _ h.first
  · rw [Joint.logOf, Joint.behind, logOf_second_cons_first]
    exact h.second

theorem Interleaved.ask_second {request : Request} {next : request.Answer → Script β}
    {script : Script α} {state : σ} {joint : Joint α β σ}
    (h : Interleaved answer script (next (answer state request).1) (answer state request).2 joint) :
    Interleaved answer script (ask request next) state
      (joint.behind .second ⟨request, (answer state request).1⟩) := by
  refine ⟨.cons h.answered, ?_, ?_⟩
  · rw [Joint.logOf, Joint.behind, logOf_first_cons_second]
    exact h.first
  · rw [Joint.logOf, Joint.behind, logOf_cons_self]
    exact .ask _ h.second

/-- Two scripts that run by a schedule ask by turns. -/
theorem interleaved_interleave (answer : σ → (request : Request) → request.Answer × σ)
    (schedule : List Side) (script : Script α) (other : Script β) (state : σ) :
    Interleaved answer script other state (interleave answer schedule script other state) := by
  induction schedule generalizing script other state with
  | nil =>
      -- One script runs to its end, and then the other one on the state that it left.
      refine ⟨?_, ?_, ?_⟩
      · simp only [interleave, List.map_append, List.map_map, Function.comp_def, List.map_id']
        exact answered_append.2 ⟨_, answered_log answer script state, answered_log answer other _⟩
      · simp only [interleave, Joint.logOf, logOf_append, logOf_map, reduceCtorEq, if_true, if_false,
          List.append_nil]
        exact ends_log answer script state
      · simp only [interleave, Joint.logOf, logOf_append, logOf_map, reduceCtorEq, if_true, if_false,
          List.nil_append]
        exact ends_log answer other _
  | cons side schedule ih =>
      cases side with
      | first =>
          cases script with
          | done value => exact ih (done value) other state
          | ask request next => exact .ask_first (ih _ other _)
      | second =>
          cases other with
          | done value => exact ih script (done value) state
          | ask request next => exact .ask_second (ih script _ _)

/-- Every way in which two scripts can ask by turns is the one of a schedule. -/
theorem Interleaved.exists_schedule {script : Script α} {other : Script β} {state : σ}
    {joint : Joint α β σ} (h : Interleaved answer script other state joint) :
    ∃ schedule, interleave answer schedule script other state = joint := by
  rcases joint with ⟨first, second, log, final⟩
  -- The schedule is read off the log.
  induction log generalizing script other state with
  | nil =>
      rcases h with ⟨hanswered, hfirst, hsecond⟩
      cases hanswered
      cases hfirst
      cases hsecond
      exact ⟨[], rfl⟩
  | cons entry log ih =>
      rcases h with ⟨hanswered, hfirst, hsecond⟩
      rcases entry with ⟨side, exchange⟩
      cases side with
      | first =>
          rw [Joint.logOf, logOf_cons_self] at hfirst
          rw [Joint.logOf, logOf_second_cons_first] at hsecond
          rcases hfirst with _ | ⟨reply, hnext⟩
          rcases hanswered with _ | ⟨hrest⟩
          rcases ih ⟨hrest, hnext, hsecond⟩ with ⟨schedule, hschedule⟩
          refine ⟨.first :: schedule, ?_⟩
          simp only [interleave, hschedule, Joint.behind]
      | second =>
          rw [Joint.logOf, logOf_first_cons_second] at hfirst
          rw [Joint.logOf, logOf_cons_self] at hsecond
          rcases hsecond with _ | ⟨reply, hnext⟩
          rcases hanswered with _ | ⟨hrest⟩
          rcases ih ⟨hrest, hfirst, hnext⟩ with ⟨schedule, hschedule⟩
          refine ⟨.second :: schedule, ?_⟩
          simp only [interleave, hschedule, Joint.behind]

end Interleaved

end Script

/-! ## Scripts that ask the same -/

/-- Whether two answers to a request tell the same.  What a registered picture became may differ, as
the case numbers its files as it likes. -/
def Request.SameAnswer : (request : Request) → request.Answer → request.Answer → Prop
  | register _, file, other => file.isSome = other.isSome
  | _, reply, other => reply = other

/-- Whether two requests are the same, apart from what files became that the job gets. -/
def Request.Alike : Request → Request → Prop
  | addToJob _, addToJob _ => True
  | request, other => request = other

theorem Request.alike_refl (request : Request) : request.Alike request := by
  cases request <;> first | rfl | trivial

namespace Script

variable {α β γ δ σ : Type}

/-- Scripts that ask the same as long as they are answered alike, and end with related values. -/
inductive Alike (related : α → β → Prop) : Script α → Script β → Prop
  | done {value : α} {other : β} : related value other → Alike related (done value) (done other)
  | ask {request : Request} {next : request.Answer → Script α}
      {nextOther : request.Answer → Script β} :
      (∀ reply other, request.SameAnswer reply other →
        Alike related (next reply) (nextOther other)) →
      Alike related (ask request next) (ask request nextOther)
  | addToJob {files others : List DerivedFile} {next : Unit → Script α}
      {nextOther : Unit → Script β} :
      Alike related (next ()) (nextOther ()) →
      Alike related (ask (.addToJob files) next) (ask (.addToJob others) nextOther)

theorem Alike.bind {related : α → β → Prop} {relatedNext : γ → δ → Prop} {script : Script α}
    {other : Script β} {next : α → Script γ} {nextOther : β → Script δ}
    (h : Alike related script other)
    (hnext : ∀ value other, related value other →
      Alike relatedNext (next value) (nextOther other)) :
    Alike relatedNext (script >>= next) (other >>= nextOther) := by
  show Alike relatedNext (script.andThen next) (other.andThen nextOther)
  induction h with
  | done hvalues => exact hnext _ _ hvalues
  | ask _ ih => exact .ask fun reply other hreply => ih reply other hreply
  | addToJob _ ih => exact .addToJob ih

theorem alike_request (asked : Request) : Alike asked.SameAnswer (request asked) (request asked) :=
  .ask fun _ _ hreply => .done hreply

/-! ## Scripts that see nothing of each other -/

/-- Surroundings in which a script sees nothing of what another one does: if two states look the
same to it, its requests are answered alike on both and leave states that look the same, and a
request of the other one leaves a state that looks the same. -/
structure Isolates (answer : σ → (request : Request) → request.Answer × σ) (looksLike : σ → σ → Prop)
    (own foreign : Request → Prop) : Prop where
  sameAnswer {request : Request} {state other : σ} : own request → looksLike state other →
    request.SameAnswer (answer state request).1 (answer other request).1
  own {request : Request} {state other : σ} : own request → looksLike state other →
    looksLike (answer state request).2 (answer other request).2
  addToJob {files others : List DerivedFile} {state other : σ} : looksLike state other →
    looksLike (answer state (.addToJob files)).2 (answer other (.addToJob others)).2
  foreign {request : Request} {state other : σ} : foreign request → looksLike state other →
    looksLike (answer state request).2 other

/-- A script that sees nothing of what the other one does ends as if it ran alone: with a related
value, after the same requests, in a state that looks the same to it. -/
theorem Isolates.alone {answer : σ → (request : Request) → request.Answer × σ}
    {looksLike : σ → σ → Prop} {own foreign : Request → Prop}
    (hisolates : Isolates answer looksLike own foreign) {related : α → β → Prop} {side : Side}
    {log : List (Side × Exchange)} {script : Script α} {alone : Script β} {value : α}
    {state final start : σ}
    (hanswered : Answered answer state (log.map Prod.snd) final)
    (hends : script.Ends (logOf side log) value)
    (hown : ∀ exchange ∈ logOf side log, own exchange.request)
    (hforeign : ∀ exchange ∈ logOf side.other log, foreign exchange.request)
    (halike : Alike related script alone) (hlooks : looksLike state start) :
    related value (alone.run answer start).1 ∧ looksLike final (alone.run answer start).2 ∧
      List.Forall₂ Request.Alike ((logOf side log).map Exchange.request)
        ((alone.log answer start).map Exchange.request) := by
  induction log generalizing script alone state start with
  | nil =>
      cases hanswered
      cases hends
      cases halike with
      | done hvalues => exact ⟨hvalues, hlooks, .nil⟩
  | cons entry log ih =>
      rcases entry with ⟨owner, exchange⟩
      rcases answered_cons.1 hanswered with ⟨hreply, hrest⟩
      by_cases howner : owner = side
      · -- The script itself asks: it is answered as it is alone, and both go on.
        subst howner
        have hother : logOf owner.other ((owner, exchange) :: log) = logOf owner.other log :=
          logOf_cons_of_ne (by cases owner <;> nofun)
        rw [hother] at hforeign
        rw [logOf_cons_self] at hends hown ⊢
        rcases List.forall_mem_cons.1 hown with ⟨hfirst, hlater⟩
        rcases hends with _ | ⟨reply, hnext⟩
        cases halike with
        | ask hnexts =>
            have hsame := hisolates.sameAnswer hfirst hlooks
            rw [hreply] at hsame
            rcases ih hrest hnext hlater hforeign (hnexts _ _ hsame)
              (hisolates.own hfirst hlooks) with ⟨hvalues, hfinal, hrequests⟩
            exact ⟨hvalues, hfinal, .cons (Request.alike_refl _) hrequests⟩
        | addToJob hnexts =>
            rcases ih hrest hnext hlater hforeign hnexts (hisolates.addToJob hlooks) with
              ⟨hvalues, hfinal, hrequests⟩
            exact ⟨hvalues, hfinal, .cons trivial hrequests⟩
      · -- The other one asks, and the script sees nothing of it.
        have hside : owner = side.other := by
          cases owner <;> cases side <;> first | rfl | exact absurd rfl howner
        subst hside
        rw [logOf_cons_self] at hforeign
        rw [logOf_cons_of_ne howner] at hends hown ⊢
        rcases List.forall_mem_cons.1 hforeign with ⟨hfirst, hlater⟩
        exact ih hrest hends hown hlater halike (hisolates.foreign hfirst hlooks)

end Script
end OfficePictures
