import Gatehouse.Proofs.RateLimit.Decisions
import Gatehouse.Proofs.RateLimit.Passage
import Mathlib.Algebra.GroupWithZero.Nat

/-! How long stages hold a request up. Each of them waits for its own inquiry, one after the other,
and where no count is above its limit nothing but these waits and breakdowns decides whether the
request gets past them. -/
namespace Gatehouse.RateLimit

variable {σ : Type}

namespace Inquiry

/-- The store returns a count in time, and the count is above the limit. -/
def Exceeds (timeout : Nanos) (inquiry : Inquiry σ) : Prop :=
  ∃ decision, inquiry.verdict timeout = .decided decision ∧
    inquiry.stage.policy.limit < decision.count

/-- The inquiry breaks down, or the reset time it leads to has no place in the calendar. -/
def Breaks (timeout : Nanos) (inquiry : Inquiry σ) : Prop :=
  ∃ payload, inquiry.verdict timeout = .broken payload

/-- A count is let pass exactly up to the limit of the stage that asked for it. -/
theorem decided_allowed {timeout : Nanos} {inquiry : Inquiry σ}
    {decision : Decision} (decided : inquiry.verdict timeout = .decided decision) :
    decision.allowed = decide (decision.count ≤ inquiry.stage.policy.limit) := by
  unfold verdict at decided
  split at decided
  · unfold answer at decided
    cases reply : inquiry.attempt.reply with
    | failed error =>
      rw [reply] at decided
      cases decided
    | broken payload =>
      rw [reply] at decided
      cases decided
    | snapshot snapshot =>
      simp only [reply] at decided
      cases concluded : Decision.ofSnapshot snapshot inquiry.stage.policy.limit
          (inquiry.wall timeout) with
      | error failure =>
        rw [concluded] at decided
        cases failure with
        | refused error => cases decided
        | overflowed overflow => cases decided
      | ok other =>
        rw [concluded] at decided
        cases decided
        obtain ⟨wellFormed, _, rfl⟩ := Decision.of_snapshot_ok concluded
        have counted := wellFormed.1
        have same : snapshot.count ≤ inquiry.stage.policy.limit ↔
            snapshot.count.toNat ≤ inquiry.stage.policy.limit := by omega
        exact decide_eq_decide.mpr same
  · cases decided

instance (timeout : Nanos) (inquiry : Inquiry σ) : Decidable (inquiry.Exceeds timeout) :=
  match verdict : inquiry.verdict timeout with
  | .decided decision =>
    decidable_of_iff (inquiry.stage.policy.limit < decision.count) <| by
      simp only [Exceeds, verdict, Verdict.decided.injEq, exists_eq_left']
  | .undecided error => .isFalse <| by simp [Exceeds, verdict]
  | .broken payload => .isFalse <| by simp [Exceeds, verdict]

instance (timeout : Nanos) (inquiry : Inquiry σ) : Decidable (inquiry.Breaks timeout) :=
  match verdict : inquiry.verdict timeout with
  | .broken payload => .isTrue ⟨payload, verdict⟩
  | .undecided error => .isFalse <| by simp [Breaks, verdict]
  | .decided decision => .isFalse <| by simp [Breaks, verdict]

theorem patience_le (timeout : Nanos) (inquiry : Inquiry σ) : inquiry.patience timeout ≤ timeout :=
  Nat.min_le_right ..

end Inquiry

/-- How long stages wait for inquiries altogether. -/
def waited (timeout : Nanos) (made : List (Inquiry σ)) : Nanos :=
  (made.map (Inquiry.patience timeout)).sum

/-- Inquiries none of which breaks down. -/
def Unbroken (timeout : Nanos) (made : List (Inquiry σ)) : Prop :=
  ∀ inquiry ∈ made, ¬ inquiry.Breaks timeout

instance (timeout : Nanos) (made : List (Inquiry σ)) : Decidable (Unbroken timeout made) :=
  inferInstanceAs (Decidable (∀ inquiry ∈ made, ¬ inquiry.Breaks timeout))

/-- What becomes of a request has its cause in the inquiries. It is passed on once they have all been
waited for and none has broken down; a denial comes from a count above its limit, and an early end
from a breakdown or from waits that are too long. -/
def Explained (timeout : Nanos) (made : List (Inquiry σ)) (world : World σ) : Passage σ → Prop
  | .passed _ after =>
    Unbroken timeout made ∧ world.HasTime (waited timeout made) ∧
      after.clock = (world.later (waited timeout made)).clock ∧ after.deadline = world.deadline
  | .denied _ _ => ∃ inquiry ∈ made, inquiry.Exceeds timeout
  | .ended .timeUp _ => ¬ world.HasTime (waited timeout made)
  | .ended (.broken _) _ => ¬ Unbroken timeout made

private theorem noted_moment (stage : Stage) (outcome : Outcome) (world : World σ) :
    (stage.noted outcome world).clock = world.clock ∧
      (stage.noted outcome world).deadline = world.deadline := by
  unfold Stage.noted
  cases stage.observed with
  | false => exact ⟨rfl, rfl⟩
  | true => exact ⟨rfl, rfl⟩

private theorem nothing_breaks (timeout : Nanos) :
    Unbroken timeout ([] : List (Inquiry σ)) := by
  intro inquiry member
  cases member

private theorem waited_append (timeout : Nanos) (first second : List (Inquiry σ)) :
    waited timeout (first ++ second) = waited timeout first + waited timeout second := by
  unfold waited
  rw [List.map_append, List.sum_append]

/-- What a stage does after its inquiry. -/
private theorem inquiry_explained (timeout : Nanos) (inquiry : Inquiry σ) (key : Key)
    (world : World σ) :
    Explained timeout [inquiry] world
      (if world.HasTime (inquiry.patience timeout) then
        inquiry.stage.conclude key (inquiry.verdict timeout)
          ((inquiry.made world).later (inquiry.patience timeout))
      else .ended .timeUp (inquiry.made world).expired) := by
  have total : waited timeout [inquiry] = inquiry.patience timeout := Nat.add_zero _
  by_cases timely : world.HasTime (inquiry.patience timeout)
  · rw [if_pos timely]
    have sound (unbroken : ¬ inquiry.Breaks timeout) :
        Unbroken timeout [inquiry] := by
      intro other member
      rw [List.mem_singleton.mp member]
      exact unbroken
    have passed (mark : Headers → Headers) (outcome : Outcome) (after : World σ)
        (unbroken : ¬ inquiry.Breaks timeout)
        (clock : after.clock = (world.later (inquiry.patience timeout)).clock)
        (deadline : after.deadline = world.deadline) :
        Explained timeout [inquiry] world (.passed mark (inquiry.stage.noted outcome after)) := by
      obtain ⟨same_clock, same_deadline⟩ := noted_moment inquiry.stage outcome after
      refine ⟨sound unbroken, ?_, ?_, same_deadline.trans deadline⟩
      · rw [total]
        exact timely
      · rw [total]
        exact same_clock.trans clock
    cases verdict : inquiry.verdict timeout with
    | undecided error =>
      refine passed id .bypassed _ ?_ rfl rfl
      rintro ⟨payload, broken⟩
      rw [verdict] at broken
      cases broken
    | broken payload =>
      intro unbroken
      exact unbroken inquiry (List.mem_singleton_self inquiry) ⟨payload, verdict⟩
    | decided decision =>
      unfold Stage.conclude
      by_cases within : decision.count ≤ inquiry.stage.policy.limit
      · have allowed : decision.allowed = true := by
          rw [Inquiry.decided_allowed verdict, decide_eq_true_iff]
          exact within
        simp only [allowed, if_true]
        refine passed _ .allowed _ ?_ rfl rfl
        rintro ⟨payload, broken⟩
        rw [verdict] at broken
        cases broken
      · have refused : decision.allowed = false := by
          rw [Inquiry.decided_allowed verdict, decide_eq_false_iff_not]
          exact within
        simp only [refused, Bool.false_eq_true, if_false]
        exact ⟨inquiry, List.mem_singleton_self inquiry, decision, verdict, Nat.lt_of_not_le within⟩
  · rw [if_neg timely]
    unfold Explained
    rw [total]
    exact timely

/-- Stages behind others: the inquiries of both explain what both do. -/
private theorem explained_append {timeout : Nanos} {first second : List (Inquiry σ)}
    {world after : World σ} {mark : Headers → Headers} {rest : World σ → Passage σ}
    (outer : Explained timeout first world (.passed mark after))
    (inner : Explained timeout second after (rest after)) :
    Explained timeout (first ++ second) world ((Passage.passed mark after).andThen rest) := by
  obtain ⟨unbroken, timely, clock, deadline⟩ := outer
  have time_left : after.HasTime (waited timeout second) ↔
      world.HasTime (waited timeout (first ++ second)) := by
    have same : after.HasTime (waited timeout second) ↔
        (world.later (waited timeout first)).HasTime (waited timeout second) := by
      unfold World.HasTime
      rw [clock, deadline]
      rfl
    rw [waited_append, World.has_time_add, same, and_iff_right timely]
  have all_unbroken : Unbroken timeout second ↔ Unbroken timeout (first ++ second) := by
    unfold Unbroken at *
    rw [List.forall_mem_append, and_iff_right unbroken]
  cases behind : rest after with
  | passed inner_mark final =>
    rw [behind] at inner
    obtain ⟨unbroken_rest, timely_rest, clock_rest, deadline_rest⟩ := inner
    simp only [Passage.andThen, behind]
    refine ⟨all_unbroken.mp unbroken_rest, time_left.mp timely_rest, ?_,
      deadline_rest.trans deadline⟩
    rw [clock_rest, waited_append]
    simp only [World.later, clock, Clock.later_later]
  | denied answer final =>
    rw [behind] at inner
    obtain ⟨inquiry, member, exceeds⟩ := inner
    simp only [Passage.andThen, behind]
    exact ⟨inquiry, List.mem_append_right first member, exceeds⟩
  | ended interrupt final =>
    rw [behind] at inner
    simp only [Passage.andThen, behind]
    cases interrupt with
    | timeUp => exact mt time_left.mpr inner
    | broken payload => exact mt all_unbroken.mpr inner

variable [CounterStore σ]

/-- The inquiry a stage makes for a request, where the request has a counter. -/
def Stage.inquiry? (stage : Stage) (request : Request) (world : World σ) : Option (Inquiry σ) :=
  (Key.derive stage.scope request).toOption.map fun key => stage.inquiry key world

/-- The inquiries that stages make for a request: each stage that the request comes to makes its
own. -/
def inquiries (timeout : Nanos) : List Stage → Request → World σ → List (Inquiry σ)
  | [], _, _ => []
  | stage :: rest, request, world =>
    (stage.inquiry? request world).toList ++
      match stage.passage timeout request world with
      | .passed _ after => inquiries timeout rest request after
      | _ => []

/-- A stage leaves its inquiry in the journal. -/
private theorem stage_increments (timeout : Nanos) (stage : Stage) (request : Request)
    (world : World σ) :
    (stage.passage timeout request world).world.journal.increments =
      world.journal.increments ++
        (stage.inquiry? request world).toList.map Inquiry.increment := by
  have noted (outcome : Outcome) (before : World σ) :
      (stage.noted outcome before).journal.increments = before.journal.increments := by
    unfold Stage.noted
    split
    · rfl
    · rfl
  unfold Stage.passage Stage.inquiry?
  cases Key.derive stage.scope request with
  | error error => exact (noted _ _).trans (List.append_nil _).symm
  | ok key =>
    simp only []
    split
    · cases (stage.inquiry key world).verdict timeout with
      | undecided error => exact noted _ _
      | broken payload => rfl
      | decided decision =>
        unfold Stage.conclude
        simp only []
        split
        · exact noted _ _
        · exact noted _ _
    · rfl

/-- The inquiries are the increments that the journal gets while a request is at the stages. -/
theorem passage_increments (timeout : Nanos) (stages : List Stage) (request : Request)
    (world : World σ) :
    (passage timeout stages request world).world.journal.increments =
      world.journal.increments ++
        (inquiries timeout stages request world).map Inquiry.increment := by
  induction stages generalizing world with
  | nil => exact (List.append_nil _).symm
  | cons stage rest ih =>
    have own := stage_increments timeout stage request world
    rw [passage, inquiries]
    cases through : stage.passage timeout request world with
    | denied answer after =>
      rw [through] at own
      simp only [List.append_nil]
      exact own
    | ended interrupt after =>
      rw [through] at own
      simp only [List.append_nil]
      exact own
    | passed mark after =>
      rw [through] at own
      have own : after.journal.increments = _ := own
      have behind := ih after
      rw [own] at behind
      simp only [List.map_append, ← List.append_assoc]
      rw [← behind]
      simp only [Passage.andThen]
      cases passage timeout rest request after with
      | passed inner final => rfl
      | denied answer final => rfl
      | ended interrupt final => rfl

/-- One stage: its own inquiry, where it makes one, explains what it does. -/
private theorem stage_explained (timeout : Nanos) (stage : Stage) (request : Request)
    (world : World σ) :
    Explained timeout (stage.inquiry? request world).toList world
      (stage.passage timeout request world) := by
  unfold Stage.inquiry? Stage.passage
  cases Key.derive stage.scope request with
  | error error =>
    obtain ⟨clock, deadline⟩ := noted_moment stage .bypassed (world.logged (error.event none))
    exact ⟨nothing_breaks timeout, World.has_time_zero world, clock, deadline⟩
  | ok key => exact inquiry_explained timeout (stage.inquiry key world) key world

/-- All stages: the inquiries explain what becomes of the request. -/
theorem stages_explained (timeout : Nanos) (stages : List Stage) (request : Request)
    (world : World σ) :
    Explained timeout (inquiries timeout stages request world) world
      (passage timeout stages request world) := by
  induction stages generalizing world with
  | nil =>
    exact ⟨nothing_breaks timeout, World.has_time_zero world, rfl, rfl⟩
  | cons stage rest ih =>
    have own := stage_explained timeout stage request world
    rw [inquiries, passage]
    cases through : stage.passage timeout request world with
    | passed mark after =>
      rw [through] at own
      exact explained_append own (ih after)
    | denied answer after =>
      rw [through] at own
      rw [List.append_nil]
      exact own
    | ended interrupt after =>
      rw [through] at own
      rw [List.append_nil]
      exact own

/-- Stages never wait longer than each of them for its whole timeout. -/
theorem waited_le (timeout : Nanos) (stages : List Stage) (request : Request)
    (world : World σ) :
    waited timeout (inquiries timeout stages request world) ≤ stages.length * timeout := by
  induction stages generalizing world with
  | nil => exact Nat.zero_le _
  | cons stage rest ih =>
    have own : waited timeout (stage.inquiry? request world).toList ≤ timeout := by
      cases stage.inquiry? request world with
      | none => exact Nat.zero_le timeout
      | some inquiry => exact inquiry.patience_le timeout
    rw [inquiries, waited_append, List.length_cons, Nat.succ_mul, Nat.add_comm]
    refine Nat.add_le_add ?_ own
    cases stage.passage timeout request world with
    | passed mark after => exact ih after
    | denied answer after => exact Nat.zero_le _
    | ended interrupt after => exact Nat.zero_le _

end Gatehouse.RateLimit
