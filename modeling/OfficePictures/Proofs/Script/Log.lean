import OfficePictures.Script

/-!
# Log — what a script asks and is answered

A run of a script is known from outside by its log: the requests in their order, each with the
answer that it got.

* `Script.log` — the log of a run on a state that answers;
* `Script.Ends` — a log leads a script to a value, whoever answers;
* `Script.ends_log` — every run leads to its value by its log;
* `Script.answered_log` — and leaves the state that answered the log.

So what is shown of all logs that lead a script to a value holds in all surroundings, also in those
that answer the same request differently each time.
-/

namespace OfficePictures

structure Exchange where
  request : Request
  answer : request.Answer

namespace Script

variable {α β σ : Type}

def log (answer : σ → (request : Request) → request.Answer × σ) :
    Script α → σ → List Exchange
  | done _, _ => []
  | ask request next, state =>
      let (reply, state) := answer state request
      ⟨request, reply⟩ :: (next reply).log answer state

/-- The script asks the requests of a log one after the other and, with the answers in the log, ends
with a value. -/
inductive Ends : Script α → List Exchange → α → Prop
  | done (value : α) : Ends (done value) [] value
  | ask {request : Request} {next : request.Answer → Script α} {log : List Exchange} {value : α}
      (reply : request.Answer) :
      Ends (next reply) log value → Ends (ask request next) (⟨request, reply⟩ :: log) value

theorem ends_log (answer : σ → (request : Request) → request.Answer × σ) (script : Script α)
    (state : σ) : script.Ends (script.log answer state) (script.run answer state).1 := by
  induction script generalizing state with
  | done value => exact .done value
  | ask request next ih => exact .ask _ (ih _ _)

/-! ## States that answer -/

/-- A state answers the requests of a log one after the other as in the log, which leaves another
state. -/
inductive Answered (answer : σ → (request : Request) → request.Answer × σ) :
    σ → List Exchange → σ → Prop
  | nil (state : σ) : Answered answer state [] state
  | cons {state final : σ} {request : Request} {log : List Exchange} :
      Answered answer (answer state request).2 log final →
        Answered answer state (⟨request, (answer state request).1⟩ :: log) final

theorem answered_log (answer : σ → (request : Request) → request.Answer × σ) (script : Script α)
    (state : σ) : Answered answer state (script.log answer state) (script.run answer state).2 := by
  induction script generalizing state with
  | done value => exact .nil state
  | ask request next ih => exact .cons (ih _ _)

theorem answered_cons {answer : σ → (request : Request) → request.Answer × σ} {state final : σ}
    {exchange : Exchange} {log : List Exchange} :
    Answered answer state (exchange :: log) final ↔
      (answer state exchange.request).1 = exchange.answer ∧
        Answered answer (answer state exchange.request).2 log final := by
  constructor
  · intro h
    rcases h with _ | ⟨h⟩
    exact ⟨rfl, h⟩
  · rcases exchange with ⟨request, reply⟩
    rintro ⟨hanswer, h⟩
    have hreply : reply = (answer state request).1 := hanswer.symm
    subst hreply
    exact .cons h

theorem answered_append {answer : σ → (request : Request) → request.Answer × σ}
    {state final : σ} {front back : List Exchange} :
    Answered answer state (front ++ back) final ↔
      ∃ middle, Answered answer state front middle ∧ Answered answer middle back final := by
  induction front generalizing state with
  | nil =>
      constructor
      · intro h
        exact ⟨state, .nil state, h⟩
      · rintro ⟨_, hfront, hback⟩
        cases hfront
        exact hback
  | cons exchange front ih =>
      constructor
      · intro h
        rcases answered_cons.1 h with ⟨hanswer, hrest⟩
        rcases ih.1 hrest with ⟨middle, hfront, hback⟩
        exact ⟨middle, answered_cons.2 ⟨hanswer, hfront⟩, hback⟩
      · rintro ⟨middle, hfront, hback⟩
        rcases answered_cons.1 hfront with ⟨hanswer, hrest⟩
        exact answered_cons.2 ⟨hanswer, ih.2 ⟨middle, hrest, hback⟩⟩

/-- Every answer in a log is one that some state gives. -/
theorem Answered.exists_state {answer : σ → (request : Request) → request.Answer × σ}
    {state final : σ} {log : List Exchange} (h : Answered answer state log final)
    {exchange : Exchange} (hmem : exchange ∈ log) :
    ∃ state, exchange.answer = (answer state exchange.request).1 := by
  induction h with
  | nil state => cases hmem
  | @cons state final request log _ ih =>
      rcases List.mem_cons.1 hmem with rfl | hlater
      · exact ⟨state, rfl⟩
      · exact ih hlater

/-! ## Logs of composed scripts -/

theorem ends_pure {value result : α} {log : List Exchange} :
    Ends (pure value) log result ↔ log = [] ∧ result = value := by
  constructor
  · intro h
    cases h
    exact ⟨rfl, rfl⟩
  · rintro ⟨rfl, rfl⟩
    exact .done result

theorem ends_request {asked : Request} {reply : asked.Answer} {log : List Exchange} :
    Ends (request asked) log reply ↔ log = [⟨asked, reply⟩] := by
  constructor
  · intro h
    rcases h with _ | ⟨_, h⟩
    cases h
    rfl
  · rintro rfl
    exact .ask reply (.done reply)

/-- A log of two scripts after one another is one of the first followed by one of the second. -/
theorem ends_bind {script : Script α} {next : α → Script β} {log : List Exchange} {result : β} :
    Ends (script >>= next) log result ↔
      ∃ value front back, Ends script front value ∧ Ends (next value) back result ∧
        log = front ++ back := by
  show Ends (script.andThen next) log result ↔ _
  -- The second script begins where the first one is done.
  induction script generalizing log with
  | done value =>
      constructor
      · intro h
        exact ⟨value, [], log, .done value, h, rfl⟩
      · rintro ⟨_, _, back, hfront, hback, rfl⟩
        cases hfront
        exact hback
  | ask request answered ih =>
      constructor
      · intro h
        rcases h with _ | ⟨reply, h⟩
        rcases (ih reply).1 h with ⟨value, front, back, hfront, hback, rfl⟩
        exact ⟨value, _ :: front, back, .ask reply hfront, hback, rfl⟩
      · rintro ⟨value, _, back, hfront, hback, rfl⟩
        rcases hfront with _ | ⟨reply, hfront⟩
        exact .ask reply ((ih reply).2 ⟨value, _, back, hfront, hback, rfl⟩)

/-- A log of a request and what follows it begins with the exchange. -/
theorem ends_request_bind {asked : Request} {next : asked.Answer → Script β}
    {log : List Exchange} {result : β} :
    Ends (request asked >>= next) log result ↔
      ∃ reply rest, Ends (next reply) rest result ∧ log = ⟨asked, reply⟩ :: rest := by
  simp only [ends_bind, ends_request]
  constructor
  · rintro ⟨reply, _, rest, rfl, hrest, rfl⟩
    exact ⟨reply, rest, hrest, rfl⟩
  · rintro ⟨reply, rest, hrest, rfl⟩
    exact ⟨reply, _, rest, rfl, hrest, rfl⟩

end Script
end OfficePictures
