import Gatehouse.Proofs.Service.Judged

/-! What it means to a request that the limiters hold it up. It is left alone if it gets past them, and then
if its answer has the status that it has without them. For that the rest of its time has to serve what
stands behind the limiters as well as the whole of it would; and as the clocks go on while it waits, a
token that it has at stake must be accepted behind the limiters exactly if it is accepted on arrival. -/
namespace Gatehouse

open RateLimit Run

variable {σ : Type}

namespace Service

variable [CounterStore σ]

/-- The time that what stands behind the limiters takes for a request in a world. -/
def handlingTime (service : Service σ) (freshId : Bytes) (request : Request) (world : World σ) :
    Nanos :=
  (service.behind request (service.arriving freshId request)).duration world

/-- The limiters leave a request alone: they pass it on as it is and once, and its answer has the
status that it has without them. -/
structure LeavesAlone (service : Service σ) (freshId : Bytes) (request : Request)
    (world : World σ) : Prop where
  passed_on : PassesOn service.limiting (service.arriving freshId request)
    (service.entered request world)
  same_status : (service.handle freshId request).status world =
    (service.withoutLimiters.handle freshId request).status world

/-- Without limiters the status is that of what stands behind them. -/
theorem status_without_limiters (service : Service σ) (freshId : Bytes) (request : Request)
    (world : World σ) :
    (service.withoutLimiters.handle freshId request).status world =
      .ok (Stages.settled ((service.behind request (service.arriving freshId request)).status
        (service.entered request world))) := by
  rw [handle_status, limiting_disabled]
  rfl

/-- With limiters it is so only for a request that is passed on, and in the world they leave. -/
theorem status_passed (service : Service σ) (freshId : Bytes) (request : Request)
    (world after : World σ) (mark : Headers → Headers)
    (passed : service.passage freshId request world = .passed mark after) :
    (service.handle freshId request).status world =
      .ok (Stages.settled ((service.behind request (service.arriving freshId request)).status
        after)) := by
  rw [handle_status]
  unfold limiting Run.status
  unfold passage at passed
  rw [stack_passage, passed]
  simp only [Passage.resume]
  rcases (service.behind request (service.arriving freshId request)).perform after with
    ⟨outcome, final⟩
  cases outcome with
  | error interrupt => rfl
  | ok answer => rfl

/-- Two answers have the same status where both or neither are in time, and those in time have it. -/
private theorem same_status_iff {held free : Nat} (held_timely : held ≠ 408)
    (free_timely : free ≠ 408) (late early : Prop) [Decidable late] [Decidable early] :
    Stages.settled (if late then .ok held else .error .timeUp) =
        Stages.settled (if early then .ok free else .error .timeUp) ↔
      (late ↔ early) ∧ (early → held = free) := by
  by_cases first : late
  · by_cases second : early
    · simp only [first, second, if_true, Stages.settled, true_and, forall_const]
    · simp only [first, second, if_true, if_false, Stages.settled, held_timely, iff_false,
        not_true_eq_false, false_and]
  · by_cases second : early
    · simp only [first, second, if_true, if_false, Stages.settled, free_timely.symm, false_iff,
        not_true_eq_false, false_and]
    · simp only [first, second, if_false, IsEmpty.forall_iff, and_true]

/-- A request that is passed on keeps its status where the rest of its time serves what stands behind the
limiters as well as the whole of it, and what it has at stake is judged alike. -/
private theorem passed_same_status_iff [Dependencies σ] {server : ServerConfig}
    {tokens : TokenConfig} {service : Service σ} (built : build server tokens = .ok service)
    {freshId : Bytes} {request : Request} {world : World σ}
    (within : service.WithinLimits freshId request world)
    (free : service.NoneBreaks freshId request world ∧
      service.waits freshId request world < service.timeAllowed) :
    let left := (service.passage freshId request world).world
    let waits := service.waits freshId request world
    (service.handle freshId request).status world =
        (service.withoutLimiters.handle freshId request).status world ↔
      (waits + service.handlingTime freshId request left < service.timeAllowed ↔
        service.handlingTime freshId request (service.entered request world) <
          service.timeAllowed) ∧
      (service.handlingTime freshId request (service.entered request world) <
          service.timeAllowed →
        (service.Accepts request world.clock.seconds ↔
          service.Accepts request (world.clock.later waits).seconds)) := by
  intro left waits
  obtain ⟨mark, after, passed⟩ := (service.limiters_account freshId request world within).1 free
  have left_after : left = after := congrArg Passage.world passed
  obtain ⟨status, told, alike⟩ := behind_status built freshId request
  have answering := behind_answering built request (service.arriving freshId request)
  obtain ⟨pause, takes⟩ := answering (service.entered request world)
  obtain ⟨pause_after, takes_after⟩ := answering after
  obtain ⟨free_timely, unhindered⟩ := takes.status_told told
  obtain ⟨held_timely, behind⟩ := takes_after.status_told told
  have time : service.handlingTime freshId request (service.entered request world) = pause :=
    takes.duration_eq
  have rest : service.handlingTime freshId request after = pause_after := takes_after.duration_eq
  rw [left_after, status_passed service freshId request world after mark passed,
    status_without_limiters, Except.ok.injEq, behind, unhindered,
    same_status_iff held_timely free_timely,
    passed_has_time passed, entered_has_time, time, rest, passed_clock passed, entered_clock,
    eq_comm, alike]

/-- The journal gets the inquiries of the limiters, and nothing else, as increments. -/
private theorem limiters_journal (service : Service σ) (freshId : Bytes) (request : Request)
    (world : World σ) :
    (service.passage freshId request world).world.journal.increments =
      world.journal.increments ++
        (service.inquiries freshId request world).map Inquiry.increment := by
  have journal : (service.entered request world).journal = world.journal := by
    unfold entered Metrics.Tracking.entered
    split
    · rfl
    · rfl
  unfold passage inquiries
  rw [passage_increments, journal]

/-- The limiters of a service make the inquiries that the journal shows. They leave a request alone
exactly where none of these breaks down, the waits at all stages together are shorter than the time of the
request, the rest of that time serves what stands behind them as well as the whole of it, and in time a
token at stake is accepted after the waits exactly if it is accepted before them. -/
theorem limiters_leave_alone_iff [Dependencies σ] {server : ServerConfig} {tokens : TokenConfig}
    {service : Service σ} (built : build server tokens = .ok service) (freshId : Bytes)
    (request : Request) (world : World σ)
    (within : service.WithinLimits freshId request world) :
    let left := (service.passage freshId request world).world
    let waits := service.waits freshId request world
    build server.withoutLimiters tokens = .ok service.withoutLimiters ∧
      left.journal.increments = world.journal.increments ++
        (service.inquiries freshId request world).map Inquiry.increment ∧
      (service.LeavesAlone freshId request world ↔
        service.NoneBreaks freshId request world ∧ waits < service.timeAllowed ∧
          (waits + service.handlingTime freshId request left < service.timeAllowed ↔
            service.handlingTime freshId request (service.entered request world) <
              service.timeAllowed) ∧
          (service.handlingTime freshId request (service.entered request world) <
              service.timeAllowed →
            (service.Accepts request world.clock.seconds ↔
              service.Accepts request (world.clock.later waits).seconds))) := by
  intro left waits
  refine ⟨build_without_limiters built, limiters_journal service freshId request world, ?_⟩
  constructor
  · rintro ⟨passed_on, same⟩
    obtain ⟨sound, timely⟩ := (passes_on_iff service freshId request world within).mp passed_on
    exact ⟨sound, timely, (passed_same_status_iff built within ⟨sound, timely⟩).mp same⟩
  · rintro ⟨sound, timely, enough⟩
    exact ⟨(passes_on_iff service freshId request world within).mpr ⟨sound, timely⟩,
      (passed_same_status_iff built within ⟨sound, timely⟩).mpr enough⟩

/-- Three limiters before a service that gives its requests some seconds. -/
def threeLimiters (seconds : Nat) : ServerConfig :=
  { ServerConfig.standard with
    readTimeout := seconds
    limits := ⟨.memory, 500,
      [("global", ⟨some true, none, none⟩), ("endpoint", ⟨some true, none, none⟩)]⟩ }

/-- A store that counts every request as the first, but takes longer than a stage waits for it. -/
def slowStore : World PreparedStore := World.start 0 (.ofReplies [⟨.snapshot ⟨1, 60⟩, 600_000_000⟩])

/-- In ten seconds there is time for three stages to wait half a second each. -/
theorem limiters_leave_alone_slow_store :
    ∃ service : Service PreparedStore, build (threeLimiters 10) .standard = .ok service ∧
      service.WithinLimits [] statusRequest slowStore ∧
      service.LeavesAlone [] statusRequest slowStore := by
  obtain ⟨service, built, within, sound, waits, allowed, hurried, whole⟩ :=
    built_with (threeLimiters 10) .standard
      (fun service => service.WithinLimits [] statusRequest slowStore ∧
        service.NoneBreaks [] statusRequest slowStore ∧
        service.waits [] statusRequest slowStore = 1_500_000_000 ∧
        service.timeAllowed = 10_000_000_000 ∧
        service.handlingTime [] statusRequest
          (service.passage [] statusRequest slowStore).world = 0 ∧
        service.handlingTime [] statusRequest (service.entered statusRequest slowStore) = 0)
      (by decide +kernel) (by decide +kernel)
  refine ⟨service, built, within, ?_⟩
  refine (limiters_leave_alone_iff built [] statusRequest slowStore within).2.2.mpr ⟨sound, ?_⟩
  rw [hurried, whole, waits, allowed]
  have nothing (token : String) : ¬ service.AtStake statusRequest token := by
    rintro (⟨asks, _, _⟩ | ⟨asks, _, _⟩)
    · exact absurd asks.1 (by decide)
    · exact absurd asks.1 (by decide)
  exact ⟨by decide, by decide, fun _ =>
    iff_of_true (accepts_of_none nothing _) (accepts_of_none nothing _)⟩

/-- In a single second there is not: the store turns nobody away, and still a request is late that
is answered at once without limiters. -/
theorem slow_store_turns_away :
    ∃ service : Service PreparedStore, build (threeLimiters 1) .standard = .ok service ∧
      build (threeLimiters 1).withoutLimiters .standard = .ok service.withoutLimiters ∧
      service.WithinLimits [] statusRequest slowStore ∧
      service.NoneBreaks [] statusRequest slowStore ∧
      (service.handle [] statusRequest).status slowStore = .ok 408 ∧
      (service.withoutLimiters.handle [] statusRequest).status slowStore = .ok 200 := by
  obtain ⟨service, built, within, sound, late, served⟩ :=
    built_with (threeLimiters 1) .standard
      (fun service => service.WithinLimits [] statusRequest slowStore ∧
        service.NoneBreaks [] statusRequest slowStore ∧
        Stages.settled ((service.handle [] statusRequest).status slowStore) = 408 ∧
        Stages.settled ((service.withoutLimiters.handle [] statusRequest).status slowStore) = 200)
      (by decide +kernel) (by decide +kernel)
  refine ⟨service, built, build_without_limiters built, within, sound, ?_, ?_⟩
  · rw [handle_answers, late]
  · rw [handle_answers, served]

/-- Whoever asks for the caller and gets past the limiters is answered as the first credential is judged
behind them. -/
theorem credential_judged_behind [Dependencies σ] {server : ServerConfig} {tokens : TokenConfig}
    {service : Service σ} (built : build server tokens = .ok service) {freshId : Bytes}
    {request : Request} {world after : World σ} {mark : Headers → Headers}
    (passed : service.passage freshId request world = .passed mark after)
    (asks : request.AsksCaller) {value : Bytes} {token : String}
    (first : request.headers.get? "authorization" = some value)
    (carries : Access.Carries value token) :
    (service.handle freshId request).status world =
      .ok (match Token.validate tokens after.clock.seconds token with
        | .ok _ => 200
        | .error _ => 401) := by
  obtain ⟨_, rfl, before, beside, table, _⟩ := build_telling built
  cases judged : Token.validate service.tokens after.clock.seconds token with
  | ok claims =>
    obtain ⟨answer, last, performed, status, _⟩ :=
      owner_told passed beside table asks ⟨value, token, first, carries, judged⟩
    unfold Run.status
    rw [performed, ← status]
    rfl
  | error error =>
    have stake : service.AtStake request token := .credential asks first carries
    have stranger (claims : Claims) : ¬ Access.Authenticated service.tokens after.clock.seconds
        request.headers claims := by
      rintro ⟨_, own, again, brings, accepted⟩
      rw [AtStake.unique (.credential asks again brings) stake, judged] at accepted
      cases accepted
    obtain ⟨answer, last, performed, status⟩ := others_rejected passed beside table asks stranger
    unfold Run.status
    rw [performed, ← status]
    rfl

/-- Where time is enough, a token may be accepted on arrival and too old behind the limiters. -/
theorem token_expires_at_limiters :
    let tokens : TokenConfig := ⟨"issuer", "audience", "secret", 60, 60⟩
    let token := Token.issue tokens (1700000000 : Nat) "user" "u@example" "admin" 60
    let request : Request := ⟨"GET", "/me", ⟨[("authorization", Utf8.encode ("Bearer " ++ token))]⟩,
      [], none, none, none⟩
    let world : World PreparedStore := World.start 1_700_000_060_600_000_000 slowStore.store
    ∃ service : Service PreparedStore, build (threeLimiters 10) tokens = .ok service ∧
      service.WithinLimits [] request world ∧ service.NoneBreaks [] request world ∧
      (service.handle [] request).status world = .ok 401 ∧
      (service.withoutLimiters.handle [] request).status world = .ok 200 := by
  intro tokens token request world
  obtain ⟨service, built, within, sound, waits, allowed⟩ :=
    built_with (threeLimiters 10) tokens
      (fun service => service.WithinLimits [] request world ∧
        service.NoneBreaks [] request world ∧
        service.waits [] request world = 500_000_000 ∧
        service.timeAllowed = 10_000_000_000)
      (by decide +kernel) (by decide +kernel)
  have asks : request.AsksCaller := ⟨rfl, .inl rfl⟩
  have carries : Access.Carries (Utf8.encode ("Bearer " ++ token)) token :=
    Access.carries_framed _ _ _
  have judged (now : Nat) := Token.validate_issued tokens "user" "u@example" "admin" 60
    (by decide : (1700000000 : Nat) ≤ Token.lastSecond) now
  refine ⟨service, built, within, sound, ?_, ?_⟩
  · obtain ⟨mark, after, passed⟩ := (service.limiters_account [] request world within).1
      ⟨sound, by rw [waits, allowed]; decide⟩
    have late : after.clock.seconds = (1700000061 : Nat) := by
      rw [passed_clock passed, waits]
      decide
    rw [credential_judged_behind built passed asks rfl carries, late, judged]
    rfl
  · have passed : service.withoutLimiters.passage [] request world =
        .passed id (service.withoutLimiters.entered request world) := rfl
    have early : (service.withoutLimiters.entered request world).clock.seconds =
        (1700000060 : Nat) := by
      rw [entered_clock]
      decide
    rw [credential_judged_behind (build_without_limiters built) passed asks rfl carries, early,
      judged]
    rfl

end Service
end Gatehouse
