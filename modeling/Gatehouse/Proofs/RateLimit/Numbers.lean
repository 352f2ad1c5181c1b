import Gatehouse.Proofs.RateLimit.Admission

/-! Whose numbers an answer carries. Each stage that decides adds its numbers on the way out, but only
where there are none yet, so the innermost of them comes first and the others find every name taken. An
answer has the numbers of one stage or of none, besides those that its handler set. -/
namespace Gatehouse.RateLimit

variable {σ : Type} {timeout : Nanos}

/-! ## Decisions -/

namespace Inquiry

variable {inquiry : Inquiry σ}

/-- An inquiry that has not broken down got a reply that the stage can handle. -/
private theorem manageable_of_settled
    (settled : ∀ payload, inquiry.verdict timeout ≠ .broken payload) :
    inquiry.Manageable timeout := by
  apply Classical.byContradiction
  intro unmanageable
  obtain ⟨payload, broken⟩ := breaks_iff.mpr unmanageable
  exact settled payload broken

/-- A decision is that of a snapshot, and is reported. -/
theorem verdict_decided {decision : Decision}
    (decided : inquiry.verdict timeout = .decided decision) :
    (∃ snapshot, inquiry.reply? timeout = some (.snapshot snapshot) ∧
      decision = snapshot.decision inquiry.stage.policy.limit (inquiry.wall timeout)) ∧
    inquiry.outcome timeout = if decision.allowed then .allowed else .denied := by
  have manageable : inquiry.Manageable timeout := by
    apply manageable_of_settled
    intro payload broken
    rw [decided] at broken
    cases broken
  by_cases bypassed : inquiry.outcome timeout = .bypassed
  · obtain ⟨error, undecided⟩ := verdict_bypassed manageable bypassed
    rw [decided] at undecided
    cases undecided
  · obtain ⟨snapshot, got, outcome, told⟩ := verdict_counted manageable bypassed
    rw [decided] at told
    cases told
    refine ⟨⟨snapshot, got, rfl⟩, ?_⟩
    rw [outcome]
    simp only [Snapshot.decision, decide_eq_true_eq]

/-- Without a decision a bypass is reported. -/
theorem verdict_undecided {error : LimitError}
    (undecided : inquiry.verdict timeout = .undecided error) :
    inquiry.outcome timeout = .bypassed := by
  have manageable : inquiry.Manageable timeout := by
    apply manageable_of_settled
    intro payload broken
    rw [undecided] at broken
    cases broken
  apply Classical.byContradiction
  intro counted
  obtain ⟨_, _, _, decided⟩ := verdict_counted manageable counted
  rw [undecided] at decided
  cases decided

end Inquiry

namespace Visit

/-- The decision that the stage has obtained, if it has one. -/
def decision? (timeout : Nanos) (visit : Visit σ) : Option Decision :=
  visit.inquiry.bind fun inquiry =>
    match inquiry.verdict timeout with
    | .decided decision => some decision
    | _ => none

/-- What the stage adds to the header fields of an answer that it lets by. -/
def mark (timeout : Nanos) (visit : Visit σ) : Headers → Headers :=
  match visit.decision? timeout with
  | some decision => Stage.addFields visit.stage.policy.limit decision
  | none => id

/-- The stage has counted the request, and the decision is what the count tells. -/
def Counted (timeout : Nanos) (visit : Visit σ) (decision : Decision) : Prop :=
  ∃ inquiry snapshot, visit.inquiry = some inquiry ∧
    inquiry.reply? timeout = some (.snapshot snapshot) ∧
    decision = snapshot.decision visit.stage.policy.limit (inquiry.wall timeout)

end Visit

/-- What stages add to the header fields of an answer, the first of the list last. -/
def marks (timeout : Nanos) (made : List (Visit σ)) : Headers → Headers :=
  made.foldr (fun visit inner => visit.mark timeout ∘ inner) id

/-- The innermost stage that has obtained a decision. -/
def Innermost (timeout : Nanos) (made : List (Visit σ)) (visit : Visit σ)
    (decision : Decision) : Prop :=
  ∃ outer inner, made = outer ++ visit :: inner ∧ visit.decision? timeout = some decision ∧
    ∀ other ∈ inner, other.decision? timeout = none

namespace Innermost

variable {made : List (Visit σ)} {visit : Visit σ} {decision : Decision}

theorem member (innermost : Innermost timeout made visit decision) : visit ∈ made := by
  obtain ⟨outer, inner, split, _, _⟩ := innermost
  rw [split]
  exact List.mem_append_right outer List.mem_cons_self

/-- The stage has counted the request, and reports what the decision says. -/
theorem counted (innermost : Innermost timeout made visit decision)
    (own : ∀ visit ∈ made, ∀ inquiry ∈ visit.inquiry, inquiry.stage = visit.stage) :
    visit.Counted timeout decision ∧
      visit.outcome timeout = if decision.allowed then .allowed else .denied := by
  have policy := own visit innermost.member
  obtain ⟨_, _, _, obtained, _⟩ := innermost
  obtain ⟨inquiry, asked, told⟩ := Option.bind_eq_some_iff.mp obtained
  cases verdict : inquiry.verdict timeout with
  | undecided error =>
    rw [verdict] at told
    cases told
  | broken payload =>
    rw [verdict] at told
    cases told
  | decided known =>
    rw [verdict] at told
    cases told
    obtain ⟨⟨snapshot, got, counted⟩, reported⟩ := Inquiry.verdict_decided verdict
    rw [policy inquiry asked] at counted
    refine ⟨⟨inquiry, snapshot, asked, got, counted⟩, ?_⟩
    unfold Visit.outcome
    rw [asked]
    exact reported

end Innermost

/-! ## One set of numbers -/

variable [CounterStore σ]

/-- A stage that lets a request by adds its mark, and leaves the store and the clocks to the next
one. -/
theorem Stage.passage_mark {stage : Stage} {request : Request} {world after : World σ}
    {mark : Headers → Headers} (passed : stage.passage timeout request world = .passed mark after) :
    let visit := stage.visit request world.store world.clock
    mark = visit.mark timeout ∧ visit.outcome timeout ≠ .denied ∧
      after.store = visit.leaves world.store ∧
      after.clock = (world.later (visit.wait timeout)).clock := by
  unfold passage at passed
  cases derived : Key.derive stage.scope request with
  | error error =>
    simp only [derived] at passed
    cases passed
    rw [visit_keyless derived world]
    obtain ⟨store, _, _, clock, _⟩ :=
      stage.noted_keeps .bypassed (world.logged (error.event none))
    exact ⟨rfl, Outcome.noConfusion, store, clock⟩
  | ok key =>
    simp only [derived] at passed
    rw [visit_keyed derived world]
    generalize asked : stage.inquiry key world = inquiry at passed ⊢
    have own : inquiry.stage = stage := by
      rw [← asked]
      rfl
    split at passed
    · cases told : inquiry.verdict timeout with
      | undecided error =>
        simp only [told, conclude] at passed
        cases passed
        obtain ⟨store, _, _, clock, _⟩ := stage.noted_keeps .bypassed
          (((inquiry.made world).later (inquiry.patience timeout)).logged
            (error.event (some key.text)))
        refine ⟨?_, ?_, store, clock⟩
        · simp only [Visit.mark, Visit.decision?, Option.bind_some, told]
        · intro (denied : inquiry.outcome timeout = .denied)
          rw [Inquiry.verdict_undecided told] at denied
          cases denied
      | decided decision =>
        simp only [told, conclude] at passed
        split at passed
        · rename_i allowed
          cases passed
          obtain ⟨store, _, _, clock, _⟩ := stage.noted_keeps .allowed
            ((inquiry.made world).later (inquiry.patience timeout))
          refine ⟨?_, ?_, store, clock⟩
          · simp only [Visit.mark, Visit.decision?, Option.bind_some, told]
          · intro (denied : inquiry.outcome timeout = .denied)
            rw [(Inquiry.verdict_decided told).2, if_pos allowed] at denied
            cases denied
        · cases passed
      | broken payload =>
        simp only [told, conclude] at passed
        cases passed
    · cases passed

/-- Stages that have to wait too long altogether are ended with their request, if they can handle the
replies that they get. -/
theorem passage_late {stages : List Stage} {request : Request} {world : World σ}
    (manageable : ∀ visit ∈ visits timeout stages request world.store world.clock,
      visit.Manageable timeout)
    (late : ¬ world.HasTime
      (waits timeout (visits timeout stages request world.store world.clock))) :
    ∃ after, passage timeout stages request world = .ended .timeUp after := by
  induction stages generalizing world with
  | nil => exact absurd (World.has_time_zero world) late
  | cons stage rest ih =>
    rw [passage]
    by_cases own_timely :
        world.HasTime ((stage.visit request world.store world.clock).wait timeout)
    · rw [visits] at manageable late
      obtain ⟨middle, first⟩ := Stage.visited timeout stage request world
        (manageable _ List.mem_cons_self) own_timely
      by_cases denied : (stage.visit request world.store world.clock).outcome timeout = .denied
      · rw [if_pos denied] at late
        exact absurd own_timely late
      · rw [if_neg denied] at manageable late
        obtain ⟨mark, _, passed⟩ := first.passed fun visit member => by
          rw [List.mem_singleton.mp member]
          exact denied
        obtain ⟨_, _, store, clock⟩ := stage.passage_mark passed
        -- the own wait is over in time, so the others are too long for what is left
        rw [waits_cons, World.has_time_add, not_and] at late
        have late_rest := late own_timely
        have behind := @ih middle
        unfold World.HasTime at behind
        rw [store, clock, first.left.deadline] at behind
        obtain ⟨after, ended⟩ := behind
          (fun visit member => manageable visit (List.mem_cons_of_mem _ member)) late_rest
        rw [passed, Passage.andThen, ended]
        exact ⟨after, rfl⟩
    · obtain ⟨after, ended⟩ := Stage.passage_late own_timely
      rw [ended]
      exact ⟨after, rfl⟩

end Gatehouse.RateLimit
