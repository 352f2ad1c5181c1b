import Gatehouse.Proofs.Service.Caller
import Gatehouse.Service.Backends

/-! The health report. Both probes run side by side and each of them is bounded, but the bound is their own:
the time of the request runs on while they and the limiters are waited for, and if it ends first there is
no report. Nothing else that the dependencies do changes the status. -/
namespace Gatehouse

open RateLimit Run

variable {σ : Type}

/-! ## Probes -/

namespace Health

/-- A probe ends well within the time that it may take. -/
def Succeeds (probe : Option Probe) : Prop :=
  ∃ asked delay, probe = some asked ∧ asked.result = .ok () ∧ asked.delay = some delay ∧
    delay ≤ probeTimeout

/-- How long a probe is waited for. -/
def patience : Option Probe → Nanos
  | none => 0
  | some probe => min (probe.delay.getD probeTimeout) probeTimeout

/-- What a probe comes to: whether it has succeeded, once it has been waited for. -/
theorem finding_tells (name : String) (probe : Option Probe) :
    (finding name probe).after = patience probe ∧
      ((finding name probe).healthy = true ↔ Succeeds probe) := by
  rcases probe with _ | ⟨delay, result⟩
  · refine ⟨rfl, iff_of_false Bool.false_ne_true ?_⟩
    rintro ⟨_, _, absent, _⟩
    cases absent
  · cases delay with
    | none =>
      refine ⟨rfl, iff_of_false Bool.false_ne_true ?_⟩
      rintro ⟨_, _, same, _, silent, _⟩
      cases same
      cases silent
    | some delay =>
      have succeeds_iff : Succeeds (some ⟨some delay, result⟩) ↔
          result = .ok () ∧ delay ≤ probeTimeout := by
        simp [Succeeds]
      unfold finding patience
      rw [succeeds_iff]
      by_cases prompt : delay ≤ probeTimeout
      · have ended : (some delay).filter (· ≤ probeTimeout) = some delay := by
          simp [prompt]
        simp only [ended, Option.getD_some, Nat.min_eq_left prompt]
        cases result with
        | ok done => exact ⟨rfl, iff_of_true rfl ⟨rfl, prompt⟩⟩
        | error reason => exact ⟨rfl, by simp⟩
      · have ended : (some delay).filter (· ≤ probeTimeout) = none := by
          simp [Nat.lt_of_not_le prompt]
        simp only [ended, Option.getD_some]
        exact ⟨(Nat.min_eq_right (Nat.le_of_not_le prompt)).symm, by simp [prompt]⟩

instance (probe : Option Probe) : Decidable (Succeeds probe) :=
  decidable_of_iff ((finding "" probe).healthy = true) (finding_tells "" probe).2

/-- The probes of the database and of Redis. -/
def probes [Dependencies σ] (store : σ) : Option Probe × Option Probe :=
  let database := Dependencies.probeDatabase store
  (database.1, (Dependencies.probeRedis database.2).1)

/-- How long both are waited for, side by side. -/
def probing (probes : Option Probe × Option Probe) : Nanos :=
  max (patience probes.1) (patience probes.2)

end Health

/-! ## What is reported -/

/-- Which dependencies are well. -/
structure DependencyHealth where
  database : Bool
  redis : Bool

/-- What an answer says about the dependencies. -/
structure HealthReport where
  timestamp : String
  services : DependencyHealth

namespace HealthReport
open Json Json.Decoder

def servicesShape : Shape DependencyHealth where
  name := "DependencyHealth"
  blank := ⟨false, false⟩
  shortLists := false
  fields := [
    .required "database" bool fun v s => { s with database := v },
    .required "redis" bool fun v s => { s with redis := v }]

/-- The body of such an answer. -/
def shape : Shape HealthReport where
  name := "HealthReport"
  blank := ⟨"", ⟨false, false⟩⟩
  shortLists := false
  fields := [
    .required "timestamp" text fun v r => { r with timestamp := v },
    .required "services" (record servicesShape) fun v r => { r with services := v }]

/-- A flag in the text. -/
def word (flag : Bool) : String := if flag then "true" else "false"

private def flags (services : DependencyHealth) : List (Entry DependencyHealth) := [
  .setting "database" (word services.database) (fun v s => { s with database := v })
    services.database,
  .setting "redis" (word services.redis) (fun v s => { s with redis := v }) services.redis]

private theorem flags_read (services : DependencyHealth) :
    Reads 2 (record servicesShape) (Utf8.encode (objectText ((flags services).map Entry.member)))
      services := by
  have flag (value : Bool) : Reads 1 bool (Utf8.encode (word value)) value :=
    (bool_reads value).deeper (by decide)
  have fit : ∀ entry ∈ flags services, entry.Fits 1 servicesShape.fields := by
    intro entry member
    simp only [flags, List.mem_cons, List.not_mem_nil, or_false] at member
    rcases member with rfl | rfl
    · exact Entry.setting_fits rfl rfl (flag _)
    · exact Entry.setting_fits rfl rfl (flag _)
  exact whole_record_reads servicesShape fit rfl (by decide)

private def entries (report : HealthReport) : List (Entry HealthReport) := [
  .setting "timestamp" (quote report.timestamp) (fun v r => { r with timestamp := v })
    report.timestamp,
  .setting "services" (objectText ((flags report.services).map Entry.member))
    (fun v r => { r with services := v }) report.services]

/-- What is reported can be read. -/
theorem json_read (report : HealthReport) :
    run (record shape) (Utf8.encode (objectText [("timestamp", quote report.timestamp),
      ("services", objectText [("database", word report.services.database),
        ("redis", word report.services.redis)])])) = .ok report := by
  have fit : ∀ entry ∈ entries report, entry.Fits 2 shape.fields := by
    intro entry member
    simp only [entries, List.mem_cons, List.not_mem_nil, or_false] at member
    rcases member with rfl | rfl
    · exact Entry.setting_fits rfl rfl ((text_reads "a string" report.timestamp).deeper (by decide))
    · exact Entry.setting_fits rfl rfl (flags_read report.services)
  have reads := whole_record_reads shape fit rfl (by decide)
  exact document_reads reads (by decide)

end HealthReport

namespace Health

variable [Dependencies σ]

/-- A body reports at some time of the day which of two probes have succeeded. -/
def Reports (wall : Int) (probes : Option Probe × Option Probe) (body : Bytes) : Prop :=
  ∃ report : HealthReport,
    Json.Decoder.run (Json.Decoder.record HealthReport.shape) body = .ok report ∧
      report.timestamp = timestamp wall ∧
      (report.services.database = true ↔ Succeeds probes.1) ∧
      (report.services.redis = true ↔ Succeeds probes.2)

/-- The handler takes the time of the probes, looks at the calendar then and reports what has become of
them. -/
theorem report_takes (request : Request) (world : World σ) :
    Takes (Handlers.health request) world (probing (probes world.store)) fun answer =>
      answer.status = 200 ∧
        Reports (world.clock.later (probing (probes world.store))).wall (probes world.store)
          answer.body := by
  obtain ⟨database_after, database_well⟩ := finding_tells "Database" (probes world.store).1
  obtain ⟨redis_after, redis_well⟩ := finding_tells "Redis" (probes world.store).2
  have time : max (findings world.store).1.after (findings world.store).2.after =
      probing (probes world.store) := by
    unfold probing
    rw [← database_after, ← redis_after]
    rfl
  rw [← time]
  refine (check_takes world).then_instant ?_
  rintro _ rfl final clock
  have told : timestamp final.clock.wall = timestamp (world.clock.later
      (max (findings world.store).1.after (findings world.store).2.after)).wall := by
    rw [clock, World.later]
  refine ⟨_, final, rfl, ⟨rfl, _, HealthReport.json_read
    ⟨timestamp final.clock.wall, (findings world.store).1.healthy, (findings world.store).2.healthy⟩,
    told, database_well, redis_well⟩, rfl, rfl⟩

end Health

/-! ## The whole service -/

namespace Service

variable [Dependencies σ] {server : ServerConfig} {tokens : TokenConfig} {service : Service σ}

/-- Behind the limiters a request for the health report gets to its handler, and only header fields are
added to the answer. -/
theorem behind_reports (built : build server tokens = .ok service) (freshId : Bytes)
    {request : Request} (asks : request.AsksHealth) (world : World σ) :
    Takes (service.behind request (service.arriving freshId request)) world
      (Health.probing (Health.probes world.store)) fun answer =>
        answer.status = 200 ∧
          Health.Reports (world.clock.later (Health.probing (Health.probes world.store))).wall
            (Health.probes world.store) answer.body := by
  generalize arrives : service.arriving freshId request = arrived
  obtain ⟨_, _, before, beside, table, routed⟩ := build_telling built
  have sole : (telling before Handlers.me).Sole healthRoute :=
    routes_health (routes_telling_me.trans (routed Handlers.me))
  have unguarded : ¬ Access.Guarded .service arrived := by
    rw [← arrives, guarded_iff_asks table freshId request beside]
    rintro ⟨own, _⟩
    rw [asks.1] at own
    exact absurd own (by decide)
  have other : arrived.method ≠ "OPTIONS" := by
    have gets : arrived.method = "GET" := arrives ▸ asks.2
    rw [gets]
    decide
  let reported : Run σ Response := do return service.decorated arrived (← Handlers.health arrived)
  have handed (moment : World σ) :
      (service.behind request arrived).perform moment = reported.perform moment := by
    rw [behind_open unguarded other, table, telling_target_health beside sole asks, perform_then]
  have takes : Takes reported world (Health.probing (Health.probes world.store)) fun answer =>
      answer.status = 200 ∧
        Health.Reports (world.clock.later (Health.probing (Health.probes world.store))).wall
          (Health.probes world.store) answer.body :=
    (Health.report_takes arrived world).then_instant
      fun _ told final _ => ⟨_, final, rfl, told, rfl, rfl⟩
  exact takes.of_perform rfl fun deadline => handed _

/-- An answer to `GET` goes out with the body that it has behind the limiters. -/
theorem delivered_body (built : build server tokens = .ok service) (freshId : Bytes)
    {request : Request} (gets : request.method = "GET") (answer : Response) :
    (service.delivered freshId request (.ok answer)).body = answer.body := by
  obtain ⟨_, _, _, _, table, _⟩ := build_telling built
  unfold delivered
  rw [sent_body table, gets, if_neg (by simp), hardened_body]

variable [CounterStore σ]

/-- No limiter denies the request. -/
def Undenied (service : Service σ) (freshId : Bytes) (request : Request) (world : World σ) : Prop :=
  ∀ answer after, service.passage freshId request world ≠ .denied answer after

instance (service : Service σ) (freshId : Bytes) (request : Request) (world : World σ) :
    Decidable (service.Undenied freshId request world) :=
  match passage : service.passage freshId request world with
  | .denied answer after => .isFalse fun undenied => undenied answer after passage
  | .passed _ _ | .ended _ _ => .isTrue (by
    intro answer after denied
    rw [passage] at denied
    cases denied)

/-- The probes that a request for the health report leads to. -/
def probesFor (service : Service σ) (freshId : Bytes) (request : Request) (world : World σ) :
    Option Probe × Option Probe :=
  Health.probes (service.passage freshId request world).world.store

/-- How long a request waits at the limiters and then for the probes. -/
def reportingTime (service : Service σ) (freshId : Bytes) (request : Request) (world : World σ) :
    Nanos :=
  service.waits freshId request world + Health.probing (service.probesFor freshId request world)

/-- What comes of a request for the health report that no limiter denies. -/
theorem health_outcome (built : build server tokens = .ok service) (freshId : Bytes)
    {request : Request} (asks : request.AsksHealth) (world : World σ)
    (undenied : service.Undenied freshId request world) :
    let outcome := ((service.passage freshId request world).resume
      (service.behind request (service.arriving freshId request)).perform).1
    if service.BreaksDown freshId request world then ∃ payload, outcome = .error (.broken payload)
    else if service.reportingTime freshId request world < service.timeAllowed then
      ∃ answer, outcome = .ok answer ∧ answer.status = 200 ∧
        Health.Reports (world.clock.later (service.reportingTime freshId request world)).wall
          (service.probesFor freshId request world) answer.body
    else outcome = .error .timeUp := by
  intro outcome
  have explained := service.passage_explained freshId request world
  cases through : service.passage freshId request world with
  | denied answer after => exact absurd through (undenied answer after)
  | ended interrupt after =>
    have ended : outcome = .error interrupt := by
      simp only [outcome, through, Passage.resume]
    rw [through] at explained
    cases interrupt with
    | broken payload =>
      rw [if_pos ⟨payload, after, through⟩]
      exact ⟨payload, ended⟩
    | timeUp =>
      have unbroken : ¬ service.BreaksDown freshId request world := by
        simp [BreaksDown, through]
      have late : ¬ service.reportingTime freshId request world < service.timeAllowed :=
        fun timely => explained (Nat.lt_of_le_of_lt (Nat.le_add_right _ _) timely)
      rw [if_neg unbroken, if_neg late]
      exact ended
  | passed mark after =>
    have unbroken : ¬ service.BreaksDown freshId request world := by
      simp [BreaksDown, through]
    have resumed : outcome =
        ((service.behind request (service.arriving freshId request)).perform after).1.map
          (·.mapHeaders mark) := by
      simp only [outcome, through, Passage.resume]
    have probes : service.probesFor freshId request world = Health.probes after.store := by
      unfold probesFor
      rw [through]
      rfl
    have takes := behind_reports built freshId asks after
    rw [← probes, passed_clock through, Clock.later_later] at takes
    have timely_iff : after.HasTime (Health.probing (service.probesFor freshId request world)) ↔
        service.reportingTime freshId request world < service.timeAllowed :=
      passed_has_time through _
    rw [if_neg unbroken]
    by_cases timely : service.reportingTime freshId request world < service.timeAllowed
    · obtain ⟨answer, final, told, ⟨status, reports⟩, _⟩ :=
        takes.gives after.deadline (timely_iff.mpr timely)
      have behind : (service.behind request (service.arriving freshId request)).perform after =
          (.ok answer, final) := told
      rw [if_pos timely, resumed, behind]
      exact ⟨answer.mapHeaders mark, rfl, status, reports⟩
    · obtain ⟨final, cut⟩ := takes.cut_off after.deadline (mt timely_iff.mp timely)
      have behind : (service.behind request (service.arriving freshId request)).perform after =
          (.error .timeUp, final) := cut
      rw [if_neg timely, resumed, behind]
      rfl

/-- A request for the health report is always answered. If no limiter denies it, the answer is the report
exactly if no limiter breaks down and the waits, first at the limiters and then for the probes, leave
some of the time of the request. The report says what time it is once they are over and which probes have
succeeded in time, and nothing else that the dependencies do makes a difference. Otherwise the answer is
that of a breakdown or of a request whose time is up. -/
theorem health_reported (built : build server tokens = .ok service) (freshId : Bytes)
    {request : Request} (asks : request.AsksHealth) (world : World σ)
    (undenied : service.Undenied freshId request world) :
    ∃ answer last, (service.handle freshId request).perform world = (.ok answer, last) ∧
      answer.status = (if service.BreaksDown freshId request world then 500
        else if service.reportingTime freshId request world < service.timeAllowed then 200
        else 408) ∧
      (answer.status = 200 → Health.Reports
        (world.clock.later (service.reportingTime freshId request world)).wall
        (service.probesFor freshId request world) answer.body) := by
  obtain ⟨last, performed⟩ := service.handle_delivers freshId request world
  refine ⟨_, last, performed, ?_⟩
  rw [delivered_status]
  have outcome := health_outcome built freshId asks world undenied
  simp only [] at outcome
  generalize ((service.passage freshId request world).resume _).1 = result at outcome ⊢
  by_cases broken : service.BreaksDown freshId request world
  · rw [if_pos broken] at outcome ⊢
    obtain ⟨payload, rfl⟩ := outcome
    exact ⟨rfl, fun same => absurd same (by decide : (500 : Nat) ≠ 200)⟩
  · rw [if_neg broken] at outcome ⊢
    by_cases timely : service.reportingTime freshId request world < service.timeAllowed
    · rw [if_pos timely] at outcome ⊢
      obtain ⟨answer, rfl, status, reports⟩ := outcome
      refine ⟨status, fun _ => ?_⟩
      rw [delivered_body built freshId asks.2]
      exact reports
    · rw [if_neg timely] at outcome ⊢
      rw [outcome]
      exact ⟨rfl, fun same => absurd same (by decide : (408 : Nat) ≠ 200)⟩

/-- A limiter that counts in the database, before a service that gives its requests some seconds. -/
def countingInDatabase (seconds : Nat) : ServerConfig :=
  { ServerConfig.standard with
    readTimeout := seconds
    limits := { LimitsConfig.standard with backend := .postgres } }

/-- A database that never answers, and a Redis that does. -/
def silentDatabase : World (Backends Redis.PreparedConnection) :=
  World.start 0 (.postgres .silent (some (.ofReplies [] (.status "PONG"))))

/-- A request for the health report, from 1.1.1.1. -/
def healthRequest : Request :=
  ⟨"GET", "/health", ⟨[("x-real-ip", [49, 46, 49, 46, 49, 46, 49])]⟩, [], none, none, none⟩

/-- Ten seconds are enough to report that the database is silent. The report has the date of its end. -/
theorem health_reported_silent_database :
    ∃ service : Service (Backends Redis.PreparedConnection),
      build (countingInDatabase 10) .standard = .ok service ∧
      service.Undenied [] healthRequest silentDatabase ∧
      ∃ answer last report,
        (service.handle [] healthRequest).perform silentDatabase = (.ok answer, last) ∧
        answer.status = 200 ∧
        Json.Decoder.run (Json.Decoder.record HealthReport.shape) answer.body = .ok report ∧
        report.timestamp = "1970-01-01T00:00:05.500Z" ∧
        report.services.database = false ∧ report.services.redis = true := by
  obtain ⟨service, built, undenied, sound, time, allowed, database, redis⟩ :=
    built_with (countingInDatabase 10) .standard
      (fun service : Service (Backends Redis.PreparedConnection) =>
        service.Undenied [] healthRequest silentDatabase ∧
        ¬ service.BreaksDown [] healthRequest silentDatabase ∧
        service.reportingTime [] healthRequest silentDatabase = 5_500_000_000 ∧
        service.timeAllowed = 10_000_000_000 ∧
        ¬ Health.Succeeds (service.probesFor [] healthRequest silentDatabase).1 ∧
        Health.Succeeds (service.probesFor [] healthRequest silentDatabase).2)
      (by decide +kernel) (by decide +kernel)
  obtain ⟨answer, last, performed, status, reports⟩ :=
    health_reported built [] ⟨rfl, rfl⟩ silentDatabase undenied
  rw [time] at status reports
  rw [if_neg sound, allowed, if_pos (by decide)] at status
  obtain ⟨report, read, dated, database_told, redis_told⟩ := reports status
  have wall : (silentDatabase.clock.later 5_500_000_000).wall = 5_500_000_000 := by decide
  rw [wall] at dated
  have text : timestamp 5_500_000_000 = "1970-01-01T00:00:05.500Z" := by decide +kernel
  exact ⟨service, built, undenied, answer, last, report, performed, status, read,
    dated.trans text, Bool.eq_false_iff.mpr (mt database_told.mp database), redis_told.mpr redis⟩

/-- Three seconds are not, although there are no limiters: the request is late. -/
theorem health_late_silent_database :
    let server := { ServerConfig.standard.withoutLimiters with readTimeout := 3 }
    let request : Request := ⟨"GET", "/health", .empty, [], none, none, none⟩
    let world : World (Backends Redis.PreparedConnection) :=
      World.start 1_700_000_000_000_000_000 (.memory .empty none (some .silent))
    ∃ service, build server .standard = .ok service ∧
      service.Undenied [] request world ∧
      (service.handle [] request).status world = .ok 408 := by
  intro server request world
  obtain ⟨service, built, undenied, late⟩ :=
    built_with server .standard
      (fun service : Service (Backends Redis.PreparedConnection) =>
        service.Undenied [] request world ∧
        Stages.settled ((service.handle [] request).status world) = 408)
      (by decide +kernel) (by decide +kernel)
  refine ⟨service, built, undenied, ?_⟩
  rw [handle_answers, late]

end Service
end Gatehouse
