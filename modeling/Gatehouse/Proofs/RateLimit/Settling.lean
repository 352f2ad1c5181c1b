import Gatehouse.Proofs.RateLimit.Admission

/-! When a stage settles a request, that is, answers it itself or lets it go by. Nothing but the time
of the request and a reply that the stage cannot handle keep it from that, and such a reply breaks it
down. -/
namespace Gatehouse.RateLimit

variable {σ : Type}

variable [CounterStore σ]

namespace Stage

/-- A stage answers a request with a denial of its own, or what stands behind it runs on the
request. -/
def Settles (timeout : Nanos) (stage : Stage) (request : Request) (world : World σ) : Prop :=
  (∃ decision after, Answers (stage.layer timeout) request world
    (Stage.denial stage.policy decision) after) ∨
  ∃ after, Reaches (stage.layer timeout) request world after

/-- A stage breaks down on a request. -/
def Breaks (timeout : Nanos) (stage : Stage) (request : Request) (world : World σ) : Prop :=
  ∃ payload after, Ends (stage.layer timeout) request world (.broken payload) after

variable {timeout : Nanos} {stage : Stage} {request : Request} {world : World σ}

private theorem ends_of_passage {interrupt : Interrupt} {after : World σ}
    (ended : stage.passage timeout request world = .ended interrupt after) :
    Ends (stage.layer timeout) request world interrupt after := by
  intro next
  rw [Stage.layer_passage, ended]
  rfl

/-- Whatever ends at a stage is not settled there. -/
theorem Settles.not_ends {interrupt : Interrupt} {after : World σ}
    (settles : stage.Settles timeout request world) :
    ¬ Ends (stage.layer timeout) request world interrupt after := by
  intro ends
  -- any handler shows the difference
  have ended := ends fun _ => return .ofStatus 200
  rcases settles with ⟨decision, behind, answers⟩ | ⟨behind, mark, reaches⟩
  · rw [answers] at ended
    cases ended
  · rw [reaches] at ended
    cases ended

private theorem settles_of_manageable
    (manageable : (stage.visit request world.store world.clock).Manageable timeout)
    (timely : world.HasTime ((stage.visit request world.store world.clock).wait timeout)) :
    stage.Settles timeout request world := by
  obtain ⟨after, visited⟩ := Stage.visited timeout stage request world manageable timely
  generalize own : stage.visit request world.store world.clock = visit at visited
  have same : visit.stage = stage := by
    rw [← own]
    rfl
  by_cases denied : visit.outcome timeout = .denied
  · obtain ⟨inquiry, snapshot, _, _, passed⟩ :=
      visited.denied visit (List.mem_singleton_self visit) denied
    rw [same] at passed
    left
    refine ⟨snapshot.decision stage.policy.limit (inquiry.wall timeout), after, fun next => ?_⟩
    rw [Stage.layer_passage, passed]
    rfl
  · obtain ⟨mark, _, passed⟩ := visited.passed fun other member => by
      rw [List.mem_singleton.mp member]
      exact denied
    right
    refine ⟨after, mark, fun next => ?_⟩
    rw [Stage.layer_passage, passed]
    rfl

private theorem ends_late
    (late : ¬ world.HasTime ((stage.visit request world.store world.clock).wait timeout)) :
    ∃ after, Ends (stage.layer timeout) request world .timeUp after := by
  obtain ⟨after, ended⟩ := Stage.passage_late late
  exact ⟨after, ends_of_passage ended⟩

private theorem breaks_of_unmanageable
    (timely : world.HasTime ((stage.visit request world.store world.clock).wait timeout))
    (unmanageable : ¬ (stage.visit request world.store world.clock).Manageable timeout) :
    stage.Breaks timeout request world := by
  cases derived : Key.derive stage.scope request with
  | error error =>
    refine absurd ?_ unmanageable
    rw [visit_keyless derived world]
    intro inquiry member
    cases member
  | ok key =>
    rw [visit_keyed derived world] at timely unmanageable
    have prompt : ((stage.inquiry key world).made world).HasTime
        ((stage.inquiry key world).patience timeout) := timely
    have unhandled : ¬ (stage.inquiry key world).Manageable timeout := by
      intro handled
      refine unmanageable fun inquiry member => ?_
      cases member
      exact handled
    obtain ⟨payload, broken⟩ := Inquiry.breaks_iff.mpr unhandled
    have ended : stage.passage timeout request world = .ended (.broken payload)
        (((stage.inquiry key world).made world).later
          ((stage.inquiry key world).patience timeout)) := by
      unfold Stage.passage
      rw [derived]
      simp only [prompt, if_true, broken, Stage.conclude]
    exact ⟨payload, _, ends_of_passage ended⟩

/-- A stage settles a request exactly if it can handle the reply that it gets, and the time of the
request is not up before. -/
theorem settles_iff : stage.Settles timeout request world ↔
    (stage.visit request world.store world.clock).Manageable timeout ∧
      world.HasTime ((stage.visit request world.store world.clock).wait timeout) := by
  constructor
  · intro settles
    have timely : world.HasTime
        ((stage.visit request world.store world.clock).wait timeout) := by
      apply Classical.byContradiction
      intro late
      obtain ⟨after, ends⟩ := ends_late late
      exact settles.not_ends ends
    refine ⟨Classical.byContradiction fun unmanageable => ?_, timely⟩
    obtain ⟨payload, after, ends⟩ := breaks_of_unmanageable timely unmanageable
    exact settles.not_ends ends
  · rintro ⟨manageable, timely⟩
    exact settles_of_manageable manageable timely

/-- And it breaks down exactly on a reply that comes in time and that it cannot handle. -/
theorem breaks_iff : stage.Breaks timeout request world ↔
    world.HasTime ((stage.visit request world.store world.clock).wait timeout) ∧
      ¬ (stage.visit request world.store world.clock).Manageable timeout := by
  constructor
  · rintro ⟨payload, after, broken⟩
    have timely : world.HasTime
        ((stage.visit request world.store world.clock).wait timeout) := by
      apply Classical.byContradiction
      intro late
      obtain ⟨expired, ends⟩ := ends_late late
      have both := (broken fun _ => return .ofStatus 200).symm.trans
        (ends fun _ => return .ofStatus 200)
      cases both
    refine ⟨timely, fun manageable => ?_⟩
    exact (settles_of_manageable manageable timely).not_ends broken
  · rintro ⟨timely, unmanageable⟩
    exact breaks_of_unmanageable timely unmanageable

end Stage
end Gatehouse.RateLimit
