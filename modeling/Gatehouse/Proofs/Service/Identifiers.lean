import Gatehouse.Proofs.Service.Answered

/-! The identifiers of requests. It is known before anything else is done which identifier an answer is
to carry, and it is put in further out than anything that may answer. No stage behind that sets a field
of this name, and the completion of the answer does not touch it. -/
namespace Gatehouse

open RateLimit

variable {σ : Type}

theorem Headers.Inner.nameless {headers : Headers} (inner : headers.Inner) :
    headers.Named (· ≠ Stages.requestIdField) := by
  have apart : ∀ name ∈ Service.innerNames, name ≠ Stages.requestIdField := by decide
  exact inner.mono apart

theorem Hardening.harden_named {kind : String → Prop} {headers : Headers}
    (named : headers.Named kind) (hardens : ∀ name ∈ names, kind name) :
    (harden headers).Named kind := by
  have own : ∀ field ∈ fields, kind field.1 := fun field member =>
    hardens field.1 (List.mem_map_of_mem member)
  exact named.foldl own fun _ field still fits => still.insertIfAbsent _ fits

namespace Service

theorem hardened_nameless (service : Service σ) (request : Request) {answer : Response}
    (inner : answer.headers.Inner) :
    (service.hardened request answer).headers.Named (· ≠ Stages.requestIdField) := by
  have varies : "vary" ≠ Stages.requestIdField := by decide
  have encodes : "content-encoding" ≠ Stages.requestIdField := by decide
  have hardens : ∀ name ∈ Hardening.names, name ≠ Stages.requestIdField := by decide
  have compressed := Stages.compressed_named service.server.compression.enabled request.headers
    inner.nameless varies encodes
  unfold hardened Response.mapHeaders
  simp only []
  exact Hardening.harden_named compressed hardens

/-- What goes out without an identifier of its own gets the one of its request. -/
theorem sent_identified (service : Service σ) (freshId : Bytes) (request : Request)
    {answer : Response} (nameless : answer.headers.Named (· ≠ Stages.requestIdField)) :
    (service.sent freshId request answer).headers.getAll Stages.requestIdField =
      [(request.headers.get? Stages.requestIdField).getD freshId] :=
  (Router.Table.completion_getAll (by decide) (by decide) _ _ _).trans
    (Headers.getAll_insertIfAbsent_self _ (nameless.getAll (not_not.mpr rfl)))

variable [CounterStore σ]

/-- Whatever comes of a request, it is answered, and the answer carries one identifier. This is the first
that the request has brought, byte for byte, and a fresh one if it has brought none. -/
theorem answers_identified [Dependencies σ] {server : ServerConfig} {tokens : TokenConfig}
    {service : Service σ} (built : build server tokens = .ok service) (freshId : Bytes)
    (request : Request) (world : World σ) :
    ∃ answer after, (service.handle freshId request).perform world = (.ok answer, after) ∧
      answer.headers.getAll "x-request-id" =
        [(request.headers.get? "x-request-id").getD freshId] := by
  rcases handle_outcomes built freshId request world with
    ⟨_, answer, after, inner, _, performed⟩ | ⟨_, after, _, performed⟩
  · exact ⟨_, _, performed, sent_identified _ _ _ (service.hardened_nameless _ inner)⟩
  · exact ⟨_, _, performed, sent_identified _ _ _ (Problem.response_inner _).nameless⟩

/-- The counter store breaks down on a request with two identifiers, of which the first is no text. -/
theorem answers_identified_broken_store :
    let request := { statusRequest with
      headers := ⟨[("x-request-id", [0xFF, 0x20]), ("x-request-id", [0x61])]⟩
      peer := some (.v4 [192, 0, 2, 1] 4711) }
    let world : World PreparedStore := World.start 1_700_000_000_000_000_000
      (.ofReplies [⟨.broken (some "boom"), 0⟩])
    ∃ service : Service PreparedStore, build .standard .standard = .ok service ∧
      ∃ answer after, (service.handle [0x62] request).perform world = (.ok answer, after) ∧
        answer.status = 500 ∧ answer.headers.getAll "x-request-id" = [[0xFF, 0x20]] := by
  intro request world
  obtain ⟨service, built, broken⟩ := built_with .standard .standard
    (fun service : Service PreparedStore =>
      Stages.settled ((service.handle [0x62] request).status world) = 500)
    (by decide +kernel) (by decide +kernel)
  obtain ⟨answer, after, performed, identified⟩ := answers_identified built [0x62] request world
  unfold Run.status at broken
  rw [performed] at broken
  have brought : request.headers.get? "x-request-id" = some [0xFF, 0x20] := by decide
  rw [brought] at identified
  exact ⟨service, built, answer, after, performed, broken, identified⟩

end Service
end Gatehouse
