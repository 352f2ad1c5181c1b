import Gatehouse.Proofs.Http.Fields
import Gatehouse.Proofs.Service.Answered

/-! Which answers are hardened. The hardening finds answers without any of its fields and sets each of
them once, and nothing further out touches them. It stands inside the stage that answers for breakdowns,
so what that stage answers has none of them. -/
namespace Gatehouse

open RateLimit

variable {σ : Type}

theorem Headers.Bare.getAll {headers : Headers} {name : String} (bare : headers.Bare)
    (hardens : name ∈ Hardening.names) : headers.getAll name = [] :=
  bare.named.getAll (not_not.mpr hardens)

/-! ## Answers -/

namespace Response

/-- Every field of the hardening has its value, and no other. -/
def Hardened (answer : Response) : Prop :=
  ∀ field ∈ Hardening.fields, answer.headers.getAll field.1 = [Utf8.encode field.2]

instance (answer : Response) : Decidable answer.Hardened :=
  inferInstanceAs (Decidable (∀ field ∈ Hardening.fields, _))

/-- No field of the hardening is there. -/
def Unhardened (answer : Response) : Prop :=
  ∀ field ∈ Hardening.fields, answer.headers.getAll field.1 = []

theorem Unhardened.not_hardened {answer : Response} (unhardened : answer.Unhardened) :
    ¬ answer.Hardened := by
  intro hardened
  have member : ("x-content-type-options", "nosniff") ∈ Hardening.fields := by decide
  have both := (unhardened _ member).symm.trans (hardened _ member)
  cases both

end Response

theorem Hardening.name_mem {field : String × String} (member : field ∈ fields) :
    field.1 ∈ names := List.mem_map_of_mem member

theorem Hardening.harden_hardens {headers : Headers} (bare : headers.Bare) :
    ∀ field ∈ fields, (harden headers).getAll field.1 = [Utf8.encode field.2] :=
  fun field member => Headers.getAll_addDefaults_own (by decide) field member
    (Headers.absent_iff_getAll.mpr (bare.getAll (name_mem member)))

namespace Service

theorem sent_getAll (service : Service σ) (freshId : Bytes) (request : Request) (answer : Response)
    {name : String} (hardens : name ∈ Hardening.names) :
    (service.sent freshId request answer).headers.getAll name = answer.headers.getAll name := by
  have apart {other : String} (foreign : other ∉ Hardening.names) : other ≠ name :=
    fun same => foreign (same ▸ hardens)
  have notLength : "content-length" ≠ name := apart (by decide)
  have notAllow : "allow" ≠ name := apart (by decide)
  have notId : Stages.requestIdField ≠ name := apart (by decide)
  exact (Router.Table.completion_getAll notLength notAllow _ _ _).trans
    (Headers.getAll_insertIfAbsent_other _ notId)

theorem hardened_hardens {service : Service σ} {request : Request} {answer : Response}
    (bare : answer.headers.Bare) : (service.hardened request answer).Hardened := by
  intro field member
  simp only [hardened, Response.mapHeaders]
  exact Hardening.harden_hardens (Stages.compressed_named _ _ bare.named (by decide) (by decide)) field member

/-- What is answered for a breakdown does not come past the hardening. -/
theorem breakdown_unhardened (service : Service σ) (freshId : Bytes) (request : Request) :
    (service.sent freshId request Stages.breakdownAnswer).Unhardened := by
  intro field member
  rw [sent_getAll _ _ _ _ (Hardening.name_mem member)]
  exact (Problem.response_inner _).bare.getAll (Hardening.name_mem member)

variable [CounterStore σ]

/-- Every request to a service that has been built is answered. The answer has every field of the
hardening, with its value and no other, exactly if the limiters do not break down; and if they do it has
status 500 and none of these fields. -/
theorem answers_hardened_iff [Dependencies σ] {server : ServerConfig} {tokens : TokenConfig}
    {service : Service σ} (built : build server tokens = .ok service) (freshId : Bytes)
    (request : Request) (world : World σ) :
    ∃ answer after, (service.handle freshId request).perform world = (.ok answer, after) ∧
      (answer.Hardened ↔ ¬ service.BreaksDown freshId request world) ∧
      (service.BreaksDown freshId request world → answer.status = 500 ∧ answer.Unhardened) := by
  rcases handle_cases built freshId request world with
    ⟨sound, answer, after, bare, _, performed⟩ | ⟨broken, after, _, performed⟩
  · refine ⟨_, _, performed, iff_of_true ?_ sound, fun broken => absurd broken sound⟩
    intro field member
    rw [sent_getAll _ _ _ _ (Hardening.name_mem member)]
    exact hardened_hardens bare field member
  · have unhardened := service.breakdown_unhardened freshId request
    refine ⟨_, _, performed, iff_of_false unhardened.not_hardened fun sound => sound broken,
      fun _ => ⟨?_, unhardened⟩⟩
    rw [sent_status]
    rfl

/-- A first request of a client whose count comes back at once. -/
theorem answers_hardened_first_request :
    let world : World PreparedStore := World.start 1_700_000_000_000_000_000
      (.ofReplies [⟨.snapshot ⟨1, 60⟩, 0⟩])
    ∃ service : Service PreparedStore, build .standard .standard = .ok service ∧
      ∃ answer after, (service.handle [] statusRequest).perform world = (.ok answer, after) ∧
        answer.Hardened := by
  intro world
  obtain ⟨service, built, sound⟩ := built_with .standard .standard
    (fun service : Service PreparedStore => ¬ service.BreaksDown [] statusRequest world)
    (by decide +kernel) (by decide +kernel)
  obtain ⟨answer, after, performed, hardened, _⟩ :=
    answers_hardened_iff built [] statusRequest world
  exact ⟨service, built, answer, after, performed, hardened.mpr sound⟩

/-- A counter store that breaks down on the request: the answer for it is not hardened. -/
theorem broken_store_unhardened :
    let world : World PreparedStore := World.start 1_700_000_000_000_000_000
      (.ofReplies [⟨.broken (some "boom"), 0⟩])
    ∃ service : Service PreparedStore, build .standard .standard = .ok service ∧
      ∃ answer after, (service.handle [] statusRequest).perform world = (.ok answer, after) ∧
        answer.status = 500 ∧ ¬ answer.Hardened := by
  intro world
  obtain ⟨service, built, broken⟩ := built_with .standard .standard
    (fun service : Service PreparedStore => service.BreaksDown [] statusRequest world)
    (by decide +kernel) (by decide +kernel)
  rcases handle_cases built [] statusRequest world with ⟨sound, _⟩ | ⟨_, after, _, performed⟩
  · exact absurd broken sound
  · refine ⟨service, built, _, after, performed, ?_,
      (service.breakdown_unhardened [] statusRequest).not_hardened⟩
    rw [sent_status]
    rfl

end Service
end Gatehouse
