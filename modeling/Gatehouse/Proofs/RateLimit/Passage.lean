import Gatehouse.Proofs.Service.Run
import Gatehouse.RateLimit.Limiter

/-! What limiter stages do with a request, as a function of the world they find. A stage makes at most
one inquiry at the store, waits for it as long as it may, and then passes the request on or ends it. A
stack does the same with all its stages, so what stands behind it runs once, in the world that the
stack leaves, or not at all. -/
namespace Gatehouse.RateLimit

variable {σ : Type}

/-- What a stage asks the store and when, and how the store takes it. -/
structure Inquiry (σ : Type) where
  stage : Stage
  key : Key
  asked : Clock
  attempt : Attempt σ

/-- What a stage learns from an inquiry. -/
inductive Verdict where
  | undecided (error : LimitError)
  | decided (decision : Decision)
  | broken (payload : Option String)
  deriving DecidableEq

namespace Inquiry

/-- How long the stage waits for the reply. -/
def patience (timeout : Nanos) (inquiry : Inquiry σ) : Nanos :=
  min (inquiry.attempt.delay.getD timeout) timeout

/-- The wall clock once the stage has waited. It has gone on since the store was asked. -/
def wall (timeout : Nanos) (inquiry : Inquiry σ) : Int :=
  (inquiry.asked.later (inquiry.patience timeout)).wall

/-- What the reply says, at a wall clock reading. -/
def answer (wall : Int) (inquiry : Inquiry σ) : Verdict :=
  match inquiry.attempt.reply with
  | .failed error => .undecided error
  | .broken payload => .broken payload
  | .snapshot snapshot =>
    match Decision.ofSnapshot snapshot inquiry.stage.policy.limit wall with
    | .ok decision => .decided decision
    | .error (.refused error) => .undecided error
    | .error (.overflowed overflow) => .broken (some overflow.message)

/-- What the inquiry comes to. A reply that is late says nothing. -/
def verdict (timeout : Nanos) (inquiry : Inquiry σ) : Verdict :=
  if inquiry.attempt.delay.any (· ≤ timeout) then inquiry.answer (inquiry.wall timeout)
  else .undecided (.timeout timeout)

/-- What the journal gets to know of an inquiry. -/
def increment (inquiry : Inquiry σ) : String × Nat :=
  (inquiry.key.text, inquiry.stage.policy.windowSeconds)

/-- The world once an inquiry has been made. -/
def made (inquiry : Inquiry σ) (world : World σ) : World σ :=
  { world with
    store := inquiry.attempt.store
    journal := { world.journal with
      increments := world.journal.increments ++ [inquiry.increment] } }

end Inquiry

/-- What becomes of a request: it is passed on in a changed world and its answer gets more header
fields, or it is denied, or its handling ends. -/
inductive Passage (σ : Type) where
  | passed (mark : Headers → Headers) (after : World σ)
  | denied (answer : Response) (after : World σ)
  | ended (interrupt : Interrupt) (after : World σ)

namespace Passage

/-- The outcome of the whole, where `rest` is what a request that is passed on comes to. -/
def resume (passage : Passage σ) (rest : World σ → Except Interrupt Response × World σ) :
    Except Interrupt Response × World σ :=
  match passage with
  | passed mark after => ((rest after).1.map (·.mapHeaders mark), (rest after).2)
  | denied answer after => (.ok answer, after)
  | ended interrupt after => (.error interrupt, after)

/-- What stands behind matters only in the world in which a request is passed on. -/
theorem resume_congr {passage : Passage σ}
    {rest other : World σ → Except Interrupt Response × World σ}
    (same : ∀ mark after, passage = .passed mark after → rest after = other after) :
    passage.resume rest = passage.resume other := by
  cases passage with
  | passed mark after =>
    unfold Passage.resume
    simp only [same mark after rfl]
  | denied answer after => rfl
  | ended interrupt after => rfl

theorem resume_unmarked (after : World σ)
    (rest : World σ → Except Interrupt Response × World σ) :
    (passed id after).resume rest = rest after := by
  simp only [resume]
  rcases rest after with ⟨outcome, final⟩
  cases outcome with
  | error interrupt => rfl
  | ok answer => rfl

/-- One passage after another. -/
def andThen (passage : Passage σ) (next : World σ → Passage σ) : Passage σ :=
  match passage with
  | passed mark after =>
    match next after with
    | passed inner final => passed (mark ∘ inner) final
    | denied answer final => denied (answer.mapHeaders mark) final
    | ended interrupt final => ended interrupt final
  | denied answer after => denied answer after
  | ended interrupt after => ended interrupt after

/-- The world that a passage leaves. -/
def world (passage : Passage σ) : World σ :=
  match passage with
  | passed _ after | denied _ after | ended _ after => after

theorem and_then_resume (passage : Passage σ) (next : World σ → Passage σ)
    (rest : World σ → Except Interrupt Response × World σ) :
    (passage.andThen next).resume rest = passage.resume fun world => (next world).resume rest := by
  cases passage with
  | denied answer after => rfl
  | ended interrupt after => rfl
  | passed mark after =>
    unfold andThen
    cases inner : next after with
    | denied answer final => simp only [resume, inner, Except.map]
    | ended interrupt final => simp only [resume, inner, Except.map]
    | passed within final =>
      simp only [resume, inner]
      rcases rest final with ⟨outcome, last⟩
      cases outcome with
      | error interrupt => rfl
      | ok answer => rfl

end Passage

namespace Stage

/-- The world once a decision has been reported, where the stage is observed. -/
def noted (stage : Stage) (outcome : Outcome) (world : World σ) : World σ :=
  if stage.observed then
    { world with
      journal := { world.journal with
        decisions := world.journal.decisions ++ [(stage.scope, outcome)] }
      metrics := world.metrics.countDecision outcome.code stage.scope.code }
  else world

/-- What the stage makes of a verdict. -/
def conclude (stage : Stage) (key : Key) (verdict : Verdict) (world : World σ) : Passage σ :=
  match verdict with
  | .undecided error =>
    .passed id (stage.noted .bypassed (world.logged (error.event (some key.text))))
  | .decided decision =>
    if decision.allowed then
      .passed (addFields stage.policy.limit decision) (stage.noted .allowed world)
    else
      .denied (denial stage.policy decision)
        (stage.noted .denied (world.logged (stage.denialEvent key decision)))
  | .broken payload => .ended (.broken payload) world

theorem report_notes (stage : Stage) (outcome : Outcome) (world : World σ) :
    (stage.report outcome).perform world = (.ok (), stage.noted outcome world) := by
  unfold report noted
  cases stage.observed with
  | false => rfl
  | true => rfl

end Stage

variable [CounterStore σ]

/-- The inquiry a stage makes about a counter. -/
def Stage.inquiry (stage : Stage) (key : Key) (world : World σ) : Inquiry σ :=
  ⟨stage, key, world.clock, CounterStore.increment world.store world.clock.timer key.text
    stage.policy.windowSeconds⟩

/-- What the count of a request comes to: the reply if it is in time, else an error. -/
private theorem count_request_waits (timeout : Nanos) (stage : Stage) (key : Key)
    (world : World σ) :
    (countRequest timeout key (wholeSeconds stage.policy.window)).perform world =
      let inquiry := stage.inquiry key world
      let asked := inquiry.made world
      if asked.HasTime (inquiry.patience timeout) then
        if inquiry.attempt.delay.any (· ≤ timeout) then
          match inquiry.attempt.reply with
          | .snapshot snapshot => (.ok (.ok snapshot), asked.later (inquiry.patience timeout))
          | .failed error => (.ok (.error error), asked.later (inquiry.patience timeout))
          | .broken payload => (.error (.broken payload), asked.later (inquiry.patience timeout))
        else (.ok (.error (.timeout timeout)), asked.later (inquiry.patience timeout))
      else (.error .timeUp, asked.expired) := by
  rcases tried : CounterStore.increment world.store world.clock.timer key.text
    (wholeSeconds stage.policy.window) with ⟨store, reply, delay⟩
  have inquiry : stage.inquiry key world = ⟨stage, key, world.clock, ⟨store, reply, delay⟩⟩ := by
    unfold Stage.inquiry Policy.windowSeconds
    rw [tried]
  unfold countRequest
  simp only [Run.perform_bind, Run.perform_get, Run.perform_set, tried, inquiry]
  cases delay with
  | none =>
    have patience : Inquiry.patience timeout ⟨stage, key, world.clock, ⟨store, reply, none⟩⟩ =
        timeout :=
      Nat.min_self timeout
    rw [Run.perform_wait_then, patience]
    rfl
  | some delay =>
    by_cases prompt : delay ≤ timeout
    · have patience : Inquiry.patience timeout
          ⟨stage, key, world.clock, ⟨store, reply, some delay⟩⟩ = delay :=
        Nat.min_eq_left prompt
      simp only [prompt, if_true, Option.any_some, decide_true]
      rw [Run.perform_wait_then, patience]
      cases reply with
      | snapshot snapshot => rfl
      | failed error => rfl
      | broken payload => rfl
    · have patience : Inquiry.patience timeout
          ⟨stage, key, world.clock, ⟨store, reply, some delay⟩⟩ = timeout :=
        Nat.min_eq_right (Nat.le_of_not_le prompt)
      simp only [prompt, if_false, Option.any_some, decide_false]
      rw [Run.perform_wait_then, patience]
      rfl

/-- What the check of a limit comes to. -/
theorem check_limit_waits (timeout : Nanos) (stage : Stage) (key : Key)
    (world : World σ) :
    (checkLimit timeout key stage.policy.limit stage.policy.window).perform world =
      let inquiry := stage.inquiry key world
      let asked := inquiry.made world
      if asked.HasTime (inquiry.patience timeout) then
        match inquiry.verdict timeout with
        | .undecided error => (.ok (.error error), asked.later (inquiry.patience timeout))
        | .decided decision => (.ok (.ok decision), asked.later (inquiry.patience timeout))
        | .broken payload => (.error (.broken payload), asked.later (inquiry.patience timeout))
      else (.error .timeUp, asked.expired) := by
  unfold checkLimit
  rw [Run.perform_bind, count_request_waits]
  generalize asking : stage.inquiry key world = inquiry
  have limit : inquiry.stage.policy.limit = stage.policy.limit := by
    rw [← asking]
    rfl
  have wall : ((inquiry.made world).later (inquiry.patience timeout)).clock.wall =
      inquiry.wall timeout := by
    rw [← asking]
    rfl
  by_cases timely : (inquiry.made world).HasTime (inquiry.patience timeout)
  · simp only [timely, if_true, Inquiry.verdict]
    by_cases prompt : inquiry.attempt.delay.any (· ≤ timeout) = true
    · simp only [prompt, if_true, Inquiry.answer]
      cases inquiry.attempt.reply with
      | failed error => rfl
      | broken payload => rfl
      | snapshot snapshot =>
        simp only [Run.perform_bind, Run.perform_get, wall, limit]
        cases Decision.ofSnapshot snapshot stage.policy.limit (inquiry.wall timeout) with
        | ok decision => rfl
        | error failure =>
          cases failure with
          | refused error => rfl
          | overflowed overflow => rfl
    · simp only [prompt]
      rfl
  · simp only [timely, if_false]

/-- What becomes of a request at the stage. -/
def Stage.passage (timeout : Nanos) (stage : Stage) (request : Request) (world : World σ) :
    Passage σ :=
  match Key.derive stage.scope request with
  | .error error => .passed id (stage.noted .bypassed (world.logged (error.event none)))
  | .ok key =>
    let inquiry := stage.inquiry key world
    let asked := inquiry.made world
    if asked.HasTime (inquiry.patience timeout) then
      stage.conclude key (inquiry.verdict timeout)
        (asked.later (inquiry.patience timeout))
    else .ended .timeUp asked.expired

/-- A stage in front of a handler does what its passage says, whatever the handler is. -/
theorem Stage.layer_passage (timeout : Nanos) (stage : Stage) (next : Handler σ) (request : Request)
    (world : World σ) :
    (stage.layer timeout next request).perform world =
      (stage.passage timeout request world).resume (next request).perform := by
  unfold layer passage
  cases Key.derive stage.scope request with
  | error error =>
    simp only [Run.perform_bind, Run.perform_log, report_notes, Passage.resume_unmarked]
  | ok key =>
    simp only [Run.perform_bind, check_limit_waits]
    by_cases timely : ((stage.inquiry key world).made world).HasTime
        ((stage.inquiry key world).patience timeout)
    · simp only [timely, if_true]
      cases (stage.inquiry key world).verdict timeout with
      | undecided error =>
        simp only [conclude, Run.perform_bind, Run.perform_log, report_notes, Passage.resume_unmarked]
      | broken payload => rfl
      | decided decision =>
        cases allowed : decision.allowed with
        | false =>
          simp only [conclude, allowed, Bool.false_eq_true, if_false, Run.perform_bind,
            Run.perform_log, report_notes]
          rfl
        | true =>
          simp only [conclude, allowed, if_true, Run.perform_bind, report_notes, Passage.resume]
          rcases (next request).perform _ with ⟨outcome, final⟩
          cases outcome with
          | error interrupt => rfl
          | ok answer => rfl
    · simp only [timely, if_false]
      rfl

/-- What becomes of a request at stages, the first of the list outermost. -/
def passage (timeout : Nanos) : List Stage → Request → World σ → Passage σ
  | [], _, world => .passed id world
  | stage :: rest, request, world =>
    (stage.passage timeout request world).andThen (passage timeout rest request)

/-- A stack does what its passage says, whatever stands behind it. -/
theorem stack_passage (timeout : Nanos) (stages : List Stage) (next : Handler σ)
    (request : Request) (world : World σ) :
    (stack timeout stages next request).perform world =
      (passage timeout stages request world).resume (next request).perform := by
  induction stages generalizing world with
  | nil => exact (Passage.resume_unmarked world (next request).perform).symm
  | cons stage rest ih =>
    have behind : (stack timeout rest next request).perform = fun world =>
        (passage timeout rest request world).resume (next request).perform := funext ih
    have outermost : stack timeout (stage :: rest) next =
      stage.layer timeout (stack timeout rest next) := rfl
    rw [outermost, Stage.layer_passage, behind, passage, Passage.and_then_resume]

end Gatehouse.RateLimit
