import Gatehouse.Proofs.RateLimit.Waits

/-! The way of a request through limiter stages, told by what the store replies. A stage that the
request comes to asks for its counter, where the request has one, and reports one outcome; the first
denial ends the way. The store and the timer alone decide how far it goes, and what a stage does is
read off the reply that it gets. -/
namespace Gatehouse.RateLimit

variable {σ : Type}

/-- A reply that a stage can handle: the store has not broken down, and the reset time of a snapshot
that can be true has a date. -/
def Reply.Manageable (wall : Int) : Reply → Prop
  | .snapshot told => told.WellFormed → Dated wall told.secondsLeft
  | .failed _ => True
  | .broken _ => False

instance (wall : Int) (reply : Reply) : Decidable (reply.Manageable wall) :=
  match reply with
  | .snapshot _ => inferInstanceAs (Decidable (_ → _))
  | .failed _ => .isTrue trivial
  | .broken _ => .isFalse id

namespace Inquiry

/-- The reply, where it comes while the stage still waits for it. -/
def reply? (timeout : Nanos) (inquiry : Inquiry σ) : Option Reply :=
  if inquiry.attempt.delay.any (· ≤ timeout) then some inquiry.attempt.reply else none

/-- Whatever reply the stage gets, it can handle it. -/
def Manageable (timeout : Nanos) (inquiry : Inquiry σ) : Prop :=
  ∀ reply ∈ inquiry.reply? timeout, reply.Manageable (inquiry.wall timeout)

instance (timeout : Nanos) (inquiry : Inquiry σ) : Decidable (inquiry.Manageable timeout) :=
  inferInstanceAs (Decidable
    (∀ reply ∈ inquiry.reply? timeout, reply.Manageable (inquiry.wall timeout)))

/-- What the stage has to report. Without a snapshot that can be true, limiting is skipped. -/
def outcome (timeout : Nanos) (inquiry : Inquiry σ) : Outcome :=
  match inquiry.reply? timeout with
  | some (.snapshot snapshot) =>
    if snapshot.count < 1 ∨ snapshot.secondsLeft < 0 then .bypassed
    else if snapshot.count ≤ inquiry.stage.policy.limit then .allowed
    else .denied
  | _ => .bypassed

variable {timeout : Nanos} {inquiry : Inquiry σ}

private theorem verdict_of_reply {reply : Reply} (got : inquiry.reply? timeout = some reply) :
    inquiry.attempt.reply = reply ∧
      inquiry.verdict timeout = inquiry.answer (inquiry.wall timeout) := by
  unfold reply? at got
  unfold verdict
  split at got
  · rename_i timely
    exact ⟨Option.some.inj got, if_pos timely⟩
  · cases got

private theorem verdict_without_reply (silent : inquiry.reply? timeout = none) :
    inquiry.verdict timeout = .undecided (.timeout timeout) := by
  unfold reply? at silent
  unfold verdict
  split at silent
  · cases silent
  · rename_i late
    exact if_neg late

/-- What a stage makes of a snapshot that it can handle: the decision that the snapshot tells, if it
can be true. -/
private theorem verdict_of_snapshot {snapshot : Snapshot}
    (got : inquiry.reply? timeout = some (.snapshot snapshot))
    (dated : snapshot.WellFormed → Dated (inquiry.wall timeout) snapshot.secondsLeft) :
    (snapshot.WellFormed ∧ inquiry.verdict timeout =
      .decided (snapshot.decision inquiry.stage.policy.limit (inquiry.wall timeout))) ∨
    (¬ snapshot.WellFormed ∧ ∃ error, inquiry.verdict timeout = .undecided error) := by
  obtain ⟨reply, answered⟩ := verdict_of_reply got
  rw [answered]
  by_cases wellFormed : snapshot.WellFormed
  · left
    refine ⟨wellFormed, ?_⟩
    simp only [answer, reply, Decision.of_snapshot_decided _ wellFormed (dated wellFormed)]
  · right
    obtain ⟨detail, refused⟩ := Decision.of_snapshot_refused
      inquiry.stage.policy.limit (inquiry.wall timeout) wellFormed
    refine ⟨wellFormed, .malformed detail, ?_⟩
    simp only [answer, reply, refused]

private theorem outcome_of_snapshot {snapshot : Snapshot}
    (got : inquiry.reply? timeout = some (.snapshot snapshot)) :
    inquiry.outcome timeout = if snapshot.WellFormed then
      if snapshot.count ≤ inquiry.stage.policy.limit then .allowed else .denied
      else .bypassed := by
  have ill : (snapshot.count < 1 ∨ snapshot.secondsLeft < 0) ↔ ¬ snapshot.WellFormed := by
    unfold Snapshot.WellFormed
    omega
  unfold outcome
  rw [got]
  by_cases wellFormed : snapshot.WellFormed
  · have passable : ¬ (snapshot.count < 1 ∨ snapshot.secondsLeft < 0) :=
      fun refused => ill.mp refused wellFormed
    simp only [passable, wellFormed, if_true, if_false]
  · have refused : snapshot.count < 1 ∨ snapshot.secondsLeft < 0 := ill.mpr wellFormed
    simp only [refused, wellFormed, if_true, if_false]

/-- A stage that reports a bypass has no decision. -/
theorem verdict_bypassed (manageable : inquiry.Manageable timeout)
    (bypassed : inquiry.outcome timeout = .bypassed) :
    ∃ error, inquiry.verdict timeout = .undecided error := by
  cases got : inquiry.reply? timeout with
  | none => exact ⟨_, verdict_without_reply got⟩
  | some reply =>
    have handled : reply.Manageable (inquiry.wall timeout) := manageable reply got
    cases reply with
    | broken payload => exact absurd handled id
    | failed error =>
      obtain ⟨same, answered⟩ := verdict_of_reply got
      refine ⟨error, ?_⟩
      rw [answered]
      simp only [answer, same]
    | snapshot snapshot =>
      rcases verdict_of_snapshot got handled with ⟨wellFormed, _⟩ | ⟨_, undecided⟩
      · rw [outcome_of_snapshot got, if_pos wellFormed] at bypassed
        split at bypassed
        · cases bypassed
        · cases bypassed
      · exact undecided

/-- A stage that reports anything else has got a snapshot, and decides as the snapshot tells. -/
theorem verdict_counted (manageable : inquiry.Manageable timeout)
    (counted : inquiry.outcome timeout ≠ .bypassed) :
    ∃ snapshot, inquiry.reply? timeout = some (.snapshot snapshot) ∧
      inquiry.outcome timeout =
        (if snapshot.count ≤ inquiry.stage.policy.limit then .allowed else .denied) ∧
      inquiry.verdict timeout =
        .decided (snapshot.decision inquiry.stage.policy.limit (inquiry.wall timeout)) := by
  cases got : inquiry.reply? timeout with
  | none =>
    refine absurd ?_ counted
    unfold outcome
    rw [got]
  | some reply =>
    have handled : reply.Manageable (inquiry.wall timeout) := manageable reply got
    cases reply with
    | broken payload => exact absurd handled id
    | failed error =>
      refine absurd ?_ counted
      unfold outcome
      rw [got]
    | snapshot snapshot =>
      have reported := outcome_of_snapshot got
      rcases verdict_of_snapshot got handled with ⟨wellFormed, decided⟩ | ⟨illFormed, _⟩
      · rw [if_pos wellFormed] at reported
        exact ⟨snapshot, rfl, reported, decided⟩
      · rw [if_neg illFormed] at reported
        exact absurd reported counted

/-- A stage breaks down exactly on a reply that it cannot handle. -/
theorem breaks_iff : inquiry.Breaks timeout ↔ ¬ inquiry.Manageable timeout := by
  constructor
  · rintro ⟨payload, broken⟩ manageable
    by_cases bypassed : inquiry.outcome timeout = .bypassed
    · obtain ⟨error, undecided⟩ := verdict_bypassed manageable bypassed
      rw [undecided] at broken
      cases broken
    · obtain ⟨snapshot, _, _, decided⟩ := verdict_counted manageable bypassed
      rw [decided] at broken
      cases broken
  · intro unmanageable
    obtain ⟨reply, unhandled⟩ := Classical.not_forall.mp unmanageable
    obtain ⟨got, unhandled⟩ := Classical.not_imp.mp unhandled
    obtain ⟨same, answered⟩ := verdict_of_reply got
    unfold Breaks
    rw [answered]
    cases reply with
    | broken payload => exact ⟨payload, by simp only [answer, same]⟩
    | failed error => exact absurd trivial unhandled
    | snapshot snapshot =>
      obtain ⟨wellFormed, undated⟩ := Classical.not_imp.mp unhandled
      obtain ⟨overflow, overflows⟩ := Decision.of_snapshot_overflows
        inquiry.stage.policy.limit wellFormed undated
      exact ⟨some overflow.message, by simp only [answer, same, overflows]⟩

end Inquiry

/-! ## One stage -/

/-- A stage that a request has come to, and what it asks the store, where the request has a
counter. -/
structure Visit (σ : Type) where
  stage : Stage
  inquiry : Option (Inquiry σ)

namespace Visit

/-- What the stage has to report. -/
def outcome (timeout : Nanos) (visit : Visit σ) : Outcome :=
  match visit.inquiry with
  | none => .bypassed
  | some inquiry => inquiry.outcome timeout

/-- How long the stage waits for the store. -/
def wait (timeout : Nanos) (visit : Visit σ) : Nanos :=
  match visit.inquiry with
  | none => 0
  | some inquiry => inquiry.patience timeout

/-- The store behind the stage. -/
def leaves (visit : Visit σ) (store : σ) : σ :=
  match visit.inquiry with
  | none => store
  | some inquiry => inquiry.attempt.store

/-- The call that the stage makes at the store: its key, and the whole seconds of its window, at
least one. -/
def call? (visit : Visit σ) : Option (String × Nat) :=
  visit.inquiry.map fun inquiry =>
    (inquiry.key.text, max 1 (visit.stage.policy.window / 1_000_000_000))

/-- What the observer of the stage gets to know, if it has one. -/
def report? (timeout : Nanos) (visit : Visit σ) : Option (Scope × Outcome) :=
  if visit.stage.observed then some (visit.stage.scope, visit.outcome timeout) else none

/-- Whatever reply the stage gets, it can handle it. -/
def Manageable (timeout : Nanos) (visit : Visit σ) : Prop :=
  ∀ inquiry ∈ visit.inquiry, inquiry.Manageable timeout

instance (timeout : Nanos) (visit : Visit σ) : Decidable (visit.Manageable timeout) :=
  inferInstanceAs (Decidable (∀ inquiry ∈ visit.inquiry, inquiry.Manageable timeout))

end Visit

/-- How long stages wait altogether. -/
def waits (timeout : Nanos) (made : List (Visit σ)) : Nanos :=
  (made.map (Visit.wait timeout)).sum

theorem waits_cons (timeout : Nanos) (visit : Visit σ) (others : List (Visit σ)) :
    waits timeout (visit :: others) = visit.wait timeout + waits timeout others := by
  unfold waits
  rw [List.map_cons, List.sum_cons]

theorem waits_singleton (timeout : Nanos) (visit : Visit σ) :
    waits timeout [visit] = visit.wait timeout := by
  unfold waits
  rw [List.map_singleton, List.sum_singleton]

theorem waits_append (timeout : Nanos) (first second : List (Visit σ)) :
    waits timeout (first ++ second) = waits timeout first + waits timeout second := by
  unfold waits
  rw [List.map_append, List.sum_append]

/-- What stages leave behind: the calls and the reports of those that the request has come to, and
nothing else. -/
structure Left (timeout : Nanos) (made : List (Visit σ)) (world after : World σ) : Prop where
  store : after.store = made.foldl (fun store visit => visit.leaves store) world.store
  calls : after.journal.increments = world.journal.increments ++ made.filterMap Visit.call?
  reports : after.journal.decisions =
    world.journal.decisions ++ made.filterMap (Visit.report? timeout)
  rejections : after.journal.rejections = world.journal.rejections
  clock : after.clock = (world.later (waits timeout made)).clock
  deadline : after.deadline = world.deadline

namespace Left

variable {timeout : Nanos} {world middle after : World σ}

theorem nothing (timeout : Nanos) (world : World σ) : Left timeout [] world world := by
  constructor
  · rfl
  · exact (List.append_nil _).symm
  · exact (List.append_nil _).symm
  · rfl
  · rfl
  · rfl

theorem append {first second : List (Visit σ)} (before : Left timeout first world middle)
    (behind : Left timeout second middle after) : Left timeout (first ++ second) world after := by
  constructor
  · rw [List.foldl_append, behind.store, before.store]
  · rw [List.filterMap_append, behind.calls, before.calls, List.append_assoc]
  · rw [List.filterMap_append, behind.reports, before.reports, List.append_assoc]
  · rw [behind.rejections, before.rejections]
  · rw [behind.clock, waits_append]
    simp only [World.later, before.clock, Clock.later_later]
  · rw [behind.deadline, before.deadline]

/-- What a single stage leaves to those behind it. -/
theorem handed {visit : Visit σ} (left : Left timeout [visit] world after) :
    after.store = visit.leaves world.store ∧
      after.clock = (world.later (visit.wait timeout)).clock ∧ after.deadline = world.deadline := by
  refine ⟨left.store, ?_, left.deadline⟩
  rw [left.clock, waits_singleton]

end Left

/-- A report leaves its entry, where the stage is observed. -/
theorem Stage.noted_reports (stage : Stage) (outcome : Outcome) (world : World σ) :
    (stage.noted outcome world).journal.decisions = world.journal.decisions ++
      if stage.observed then [(stage.scope, outcome)] else [] := by
  unfold noted
  cases stage.observed with
  | false => exact (List.append_nil _).symm
  | true => rfl

/-- A report touches the journal of reports and the metrics only. -/
theorem Stage.noted_keeps (stage : Stage) (outcome : Outcome) (world : World σ) :
    (stage.noted outcome world).store = world.store ∧
      (stage.noted outcome world).journal.increments = world.journal.increments ∧
      (stage.noted outcome world).journal.rejections = world.journal.rejections ∧
      (stage.noted outcome world).clock = world.clock ∧
      (stage.noted outcome world).deadline = world.deadline := by
  unfold noted
  cases stage.observed with
  | false => exact ⟨rfl, rfl, rfl, rfl, rfl⟩
  | true => exact ⟨rfl, rfl, rfl, rfl, rfl⟩

variable [CounterStore σ]

/-- What a stage asks about a request. -/
def Stage.visit (stage : Stage) (request : Request) (store : σ) (clock : Clock) : Visit σ :=
  ⟨stage, (Key.derive stage.scope request).toOption.map fun key =>
    ⟨stage, key, clock, CounterStore.increment store clock.timer key.text
      (max 1 (stage.policy.window / 1_000_000_000))⟩⟩

theorem Stage.visit_keyless {stage : Stage} {request : Request} {error : LimitError}
    (derived : Key.derive stage.scope request = .error error) (world : World σ) :
    stage.visit request world.store world.clock = ⟨stage, none⟩ := by
  unfold visit
  rw [derived]
  rfl

theorem Stage.visit_keyed {stage : Stage} {request : Request} {key : Key}
    (derived : Key.derive stage.scope request = .ok key) (world : World σ) :
    stage.visit request world.store world.clock = ⟨stage, some (stage.inquiry key world)⟩ := by
  unfold visit
  rw [derived]
  rfl

/-! ## The stages that a request comes to -/

/-- The stages that a request comes to, the outermost first. Each of them finds the store and the
clocks as the stage in front of it has left them; behind a denial there are none. -/
def visits (timeout : Nanos) : List Stage → Request → σ → Clock → List (Visit σ)
  | [], _, _, _ => []
  | stage :: rest, request, store, clock =>
    let visit := stage.visit request store clock
    visit :: if visit.outcome timeout = .denied then []
      else visits timeout rest request (visit.leaves store) (clock.later (visit.wait timeout))

variable {stages : List Stage} {request : Request} {store : σ} {clock : Clock}

theorem visits_in_order :
    (visits timeout stages request store clock).map Visit.stage <+: stages := by
  induction stages generalizing store clock with
  | nil => exact List.prefix_rfl
  | cons stage rest ih =>
    rw [visits]
    split
    · exact List.cons_prefix_cons.mpr ⟨rfl, List.nil_prefix⟩
    · exact List.cons_prefix_cons.mpr ⟨rfl, ih⟩

/-- Whoever is denied is denied at the last stage that the request comes to. -/
theorem visits_end_with_denial :
    ∀ visit ∈ (visits timeout stages request store clock).dropLast,
      visit.outcome timeout ≠ .denied := by
  induction stages generalizing store clock with
  | nil => intro visit member; cases member
  | cons stage rest ih =>
    rw [visits]
    split
    · intro visit member
      cases member
    · rename_i spared
      intro visit member
      -- without a stage behind it this one is the last
      cases behind : visits timeout rest request
          ((stage.visit request store clock).leaves store)
          (clock.later ((stage.visit request store clock).wait timeout)) with
      | nil =>
        rw [behind] at member
        cases member
      | cons next others =>
        rw [behind, List.dropLast_cons_of_ne_nil (List.cons_ne_nil _ _)] at member
        rcases List.mem_cons.mp member with here | there
        · rw [here]
          exact spared
        · rw [← behind] at there
          exact ih visit there

/-- A request that is not denied comes to every stage. -/
theorem visits_complete
    (spared : ∀ visit ∈ visits timeout stages request store clock,
      visit.outcome timeout ≠ .denied) :
    (visits timeout stages request store clock).map Visit.stage = stages := by
  induction stages generalizing store clock with
  | nil => rfl
  | cons stage rest ih =>
    rw [visits] at spared ⊢
    have own := spared _ List.mem_cons_self
    rw [if_neg own] at spared ⊢
    rw [List.map_cons, ih fun visit member => spared visit (List.mem_cons_of_mem _ member)]
    rfl

/-- A request comes to a stage exactly if it has come to the one in front of it and was not denied
there. -/
theorem visits_next (timeout : Nanos) (request : Request) (store : σ) (clock : Clock) (place : Nat)
    (inside : place + 1 < stages.length) :
    (visits timeout stages request store clock)[place + 1]?.isSome =
      ((visits timeout stages request store clock)[place]?).any
        fun visit => visit.outcome timeout ≠ .denied := by
  induction stages generalizing store clock place with
  | nil => cases inside
  | cons stage rest ih =>
    rw [visits]
    by_cases own : (stage.visit request store clock).outcome timeout = .denied
    · simp only [own, if_true]
      cases place with
      | zero => simp [own]
      | succ place => simp
    · simp only [own, if_false, List.getElem?_cons_succ]
      cases place with
      | zero =>
        cases rest with
        | nil => simp at inside
        | cons next others => simp [visits, own]
      | succ place =>
        rw [List.getElem?_cons_succ]
        exact ih _ _ place (Nat.lt_of_succ_lt_succ inside)

end Gatehouse.RateLimit
