import Gatehouse.Proofs.Http.Fields
import Gatehouse.Proofs.RateLimit.Visits
import Gatehouse.RateLimit.Prepared

/-! What a stack of limiter stages does with a request: it passes the stages from the outermost on, up
to the first that denies it, and that stage answers it. Without a denial what stands behind the stack
runs on it once. Each stage that is reached calls the store at most once and reports once, so over any
run a stage reports as often as the stage in front of it lets a request go by. -/
namespace Gatehouse

namespace RateLimit

variable {σ : Type}

/-! ## Denials -/

/-- Header fields may be added to an answer, but not to a denial. -/
def KeepsDenials (mark : Headers → Headers) : Prop :=
  ∀ policy decision, (Stage.denial policy decision).mapHeaders mark = Stage.denial policy decision

theorem keeps_denials_id : KeepsDenials id := fun _ _ => rfl

theorem KeepsDenials.comp {outer inner : Headers → Headers} (first : KeepsDenials outer)
    (second : KeepsDenials inner) : KeepsDenials (outer ∘ inner) := by
  intro policy decision
  have inside := second policy decision
  have outside := first policy decision
  unfold Response.mapHeaders at *
  rw [Response.mk.injEq] at inside outside
  simp only [Function.comp_apply, inside.2.1, outside.2.1]

/-- The numbers are added as defaults. -/
theorem Stage.add_fields_defaults (limit : Nat) (decision : Decision) (headers : Headers) :
    addFields limit decision headers = headers.addDefaults (fields limit decision) := rfl

/-- The numbers have different names, and none of them is that of the time to wait. -/
theorem Stage.field_names (limit : Nat) (decision : Decision) :
    ((fields limit decision).map Prod.fst).Nodup ∧
      "retry-after" ∉ (fields limit decision).map Prod.fst := by
  have names : (fields limit decision).map Prod.fst =
      ["x-ratelimit-limit", "x-ratelimit-remaining", "x-ratelimit-reset"] := rfl
  rw [names]
  decide

/-- A denial carries all numbers of its own stage. -/
theorem Stage.denial_numbers (policy : Policy) (decision : Decision) :
    ∀ field ∈ fields policy.limit decision,
      (denial policy decision).headers.getAll field.1 = [Utf8.encode field.2] := by
  intro field member
  obtain ⟨distinct, elsewhere⟩ := field_names policy.limit decision
  have different : "retry-after" ≠ field.1 := by
    intro same
    rw [same] at elsewhere
    exact elsewhere (List.mem_map_of_mem member)
  exact (Headers.getAll_set_other _ different).trans (Headers.getAll_setAll _ distinct field member)

/-- So no stage further out adds any. -/
theorem add_fields_keeps_denials (limit : Nat) (decision : Decision) :
    KeepsDenials (Stage.addFields limit decision) := by
  intro policy denied
  have numbered : ∀ field ∈ Stage.fields policy.limit denied,
      (Stage.denial policy denied).headers.contains field.1 = true := by
    intro field member
    rw [Headers.contains_iff_getAll, Stage.denial_numbers policy denied field member]
    exact List.cons_ne_nil _ _
  have present : ∀ field ∈ Stage.fields limit decision,
      (Stage.denial policy denied).headers.contains field.1 = true := by
    simpa [Stage.fields] using numbered
  unfold Response.mapHeaders
  rw [Stage.add_fields_defaults, Headers.addDefaults_present present]

variable {timeout : Nanos}

/-! ## One stage -/

/-- Stages run their course: they leave their calls and reports, and either pass the request on or end
it with the denial of one of them. -/
structure Visited (timeout : Nanos) (made : List (Visit σ)) (world : World σ)
    (passage : Passage σ) (after : World σ) : Prop where
  left : Left timeout made world after
  passed : (∀ visit ∈ made, visit.outcome timeout ≠ .denied) →
    ∃ mark, KeepsDenials mark ∧ passage = .passed mark after
  denied : ∀ visit ∈ made, visit.outcome timeout = .denied →
    ∃ inquiry snapshot, visit.inquiry = some inquiry ∧
      inquiry.reply? timeout = some (.snapshot snapshot) ∧
      passage = .denied (Stage.denial visit.stage.policy
        (snapshot.decision visit.stage.policy.limit (inquiry.wall timeout))) after

/-- The world in which a stage reports, apart from the log. -/
structure Asked (timeout : Nanos) (visit : Visit σ) (world asked : World σ) : Prop where
  store : asked.store = visit.leaves world.store
  calls : asked.journal.increments = world.journal.increments ++ visit.call?.toList
  reports : asked.journal.decisions = world.journal.decisions
  rejections : asked.journal.rejections = world.journal.rejections
  clock : asked.clock = (world.later (visit.wait timeout)).clock
  deadline : asked.deadline = world.deadline

namespace Asked

private theorem keyless (stage : Stage) (world : World σ) (event : Event) :
    Asked timeout ⟨stage, none⟩ world (world.logged event) := by
  constructor
  · rfl
  · exact (List.append_nil _).symm
  · rfl
  · rfl
  · rfl
  · rfl

private theorem keyed (timeout : Nanos) (inquiry : Inquiry σ) (world : World σ) :
    Asked timeout ⟨inquiry.stage, some inquiry⟩ world
      ((inquiry.made world).later (inquiry.patience timeout)) := by
  constructor
  · rfl
  · rfl
  · rfl
  · rfl
  · rfl
  · rfl

variable {visit : Visit σ} {world asked : World σ}

private theorem logged (event : Event) (made : Asked timeout visit world asked) :
    Asked timeout visit world (asked.logged event) :=
  ⟨made.store, made.calls, made.reports, made.rejections, made.clock, made.deadline⟩

/-- The report completes what a stage leaves. -/
private theorem left (made : Asked timeout visit world asked) :
    Left timeout [visit] world (visit.stage.noted (visit.outcome timeout) asked) := by
  obtain ⟨store, calls, rejections, clock, deadline⟩ :=
    visit.stage.noted_keeps (visit.outcome timeout) asked
  constructor
  · rw [store, made.store]
    rfl
  · rw [calls, made.calls]
    rfl
  · have alone : [visit].filterMap (Visit.report? timeout) =
        (visit.report? timeout).toList := rfl
    rw [visit.stage.noted_reports, made.reports, alone]
    unfold Visit.report?
    cases visit.stage.observed with
    | false => rfl
    | true => rfl
  · rw [rejections, made.rejections]
  · rw [clock, made.clock, waits_singleton]
  · rw [deadline, made.deadline]

end Asked

/-- A single stage that does not deny passes on. -/
private theorem Visited.spared {visit : Visit σ} {world after : World σ} {passage : Passage σ}
    {mark : Headers → Headers} (left : Left timeout [visit] world after)
    (spared : visit.outcome timeout ≠ .denied) (keeps : KeepsDenials mark)
    (passed : passage = .passed mark after) : Visited timeout [visit] world passage after := by
  refine ⟨left, fun _ => ⟨mark, keeps, passed⟩, ?_⟩
  intro other member denied
  rw [List.mem_singleton.mp member] at denied
  exact absurd denied spared

/-- What the stage concludes from a reply that it can handle. -/
private theorem conclusion_visited (inquiry : Inquiry σ) (key : Key) (world : World σ)
    (manageable : inquiry.Manageable timeout) :
    ∃ after, Visited timeout [⟨inquiry.stage, some inquiry⟩] world
      (inquiry.stage.conclude key (inquiry.verdict timeout)
        ((inquiry.made world).later (inquiry.patience timeout))) after := by
  have asked := Asked.keyed timeout inquiry world
  have reported : Visit.outcome timeout ⟨inquiry.stage, some inquiry⟩ = inquiry.outcome timeout := rfl
  by_cases bypassed : inquiry.outcome timeout = .bypassed
  · obtain ⟨error, undecided⟩ := Inquiry.verdict_bypassed manageable bypassed
    have left := (asked.logged (error.event (some key.text))).left
    rw [reported, bypassed] at left
    refine ⟨_, .spared left ?_ keeps_denials_id ?_⟩
    · rw [reported, bypassed]
      exact Outcome.noConfusion
    · rw [undecided]
      rfl
  · obtain ⟨snapshot, got, outcome, decided⟩ := Inquiry.verdict_counted manageable bypassed
    generalize told : snapshot.decision inquiry.stage.policy.limit (inquiry.wall timeout) =
      decision at *
    by_cases within : snapshot.count ≤ inquiry.stage.policy.limit
    · rw [if_pos within] at outcome
      have allowed : decision.allowed = true := by
        rw [← told]
        exact decide_eq_true within
      have left := asked.left
      rw [reported, outcome] at left
      refine ⟨_, .spared left ?_
        (add_fields_keeps_denials inquiry.stage.policy.limit decision) ?_⟩
      · rw [reported, outcome]
        exact Outcome.noConfusion
      · rw [decided]
        simp only [Stage.conclude, allowed, if_true]
    · rw [if_neg within] at outcome
      have refused : decision.allowed = false := by
        rw [← told]
        exact decide_eq_false within
      have left := (asked.logged (inquiry.stage.denialEvent key decision)).left
      rw [reported, outcome] at left
      refine ⟨_, left, ?_, ?_⟩
      · intro spared
        exact absurd (reported.trans outcome) (spared _ (List.mem_singleton_self _))
      · intro visit member _
        obtain rfl := List.mem_singleton.mp member
        refine ⟨inquiry, snapshot, rfl, got, ?_⟩
        rw [decided, told]
        simp only [Stage.conclude, refused, Bool.false_eq_true, if_false]

/-- Behind a stage that denies, no other runs. -/
private theorem Visited.ends {visit : Visit σ} {world after : World σ} {passage : Passage σ}
    (visited : Visited timeout [visit] world passage after)
    (denied : visit.outcome timeout = .denied) (next : World σ → Passage σ) :
    Visited timeout [visit] world (passage.andThen next) after := by
  obtain ⟨_, _, _, _, refused⟩ := visited.denied visit (List.mem_singleton_self visit) denied
  have ends : passage.andThen next = passage := by
    rw [refused]
    rfl
  rw [ends]
  exact visited

/-- Stages behind others that have let the request go by. -/
private theorem Visited.andThen {first second : List (Visit σ)} {world middle after : World σ}
    {outer : Passage σ} {next : World σ → Passage σ}
    (before : Visited timeout first world outer middle)
    (spared : ∀ visit ∈ first, visit.outcome timeout ≠ .denied)
    (behind : Visited timeout second middle (next middle) after) :
    Visited timeout (first ++ second) world (outer.andThen next) after := by
  obtain ⟨mark, keeps, passed⟩ := before.passed spared
  constructor
  · exact before.left.append behind.left
  · intro all_spared
    obtain ⟨inner, inner_keeps, inner_passed⟩ := behind.passed fun visit member =>
      all_spared visit (List.mem_append_right first member)
    refine ⟨mark ∘ inner, keeps.comp inner_keeps, ?_⟩
    simp only [passed, Passage.andThen, inner_passed]
  · intro visit member denied
    rcases List.mem_append.mp member with here | there
    · exact absurd denied (spared visit here)
    · obtain ⟨inquiry, snapshot, asked, got, refused⟩ := behind.denied visit there denied
      refine ⟨inquiry, snapshot, asked, got, ?_⟩
      simp only [passed, Passage.andThen, refused, keeps _ _]

variable [CounterStore σ]

/-- A stage that can handle its reply and has the time to wait for it runs its course. -/
theorem Stage.visited (timeout : Nanos) (stage : Stage) (request : Request) (world : World σ)
    (manageable : (stage.visit request world.store world.clock).Manageable timeout)
    (timely : world.HasTime ((stage.visit request world.store world.clock).wait timeout)) :
    ∃ after, Visited timeout [stage.visit request world.store world.clock] world
      (stage.passage timeout request world) after := by
  unfold Stage.passage
  cases derived : Key.derive stage.scope request with
  | error error =>
    rw [Stage.visit_keyless derived world]
    refine ⟨_, .spared (Asked.keyless stage world (error.event none)).left ?_ keeps_denials_id rfl⟩
    exact Outcome.noConfusion
  | ok key =>
    rw [Stage.visit_keyed derived world] at manageable timely ⊢
    have handled := manageable (stage.inquiry key world) rfl
    have prompt : ((stage.inquiry key world).made world).HasTime
        ((stage.inquiry key world).patience timeout) := timely
    simp only [prompt, if_true]
    exact conclusion_visited (stage.inquiry key world) key world handled

/-- A stage that has to wait too long is ended with its request. -/
theorem Stage.passage_late {stage : Stage} {request : Request} {world : World σ}
    (late : ¬ world.HasTime ((stage.visit request world.store world.clock).wait timeout)) :
    ∃ after, stage.passage timeout request world = .ended .timeUp after := by
  unfold Stage.passage
  cases derived : Key.derive stage.scope request with
  | error error =>
    rw [Stage.visit_keyless derived world] at late
    exact absurd (World.has_time_zero world) late
  | ok key =>
    rw [Stage.visit_keyed derived world] at late
    have hurried : ¬ ((stage.inquiry key world).made world).HasTime
        ((stage.inquiry key world).patience timeout) := late
    exact ⟨_, if_neg hurried⟩

/-! ## The stack -/

/-- The stages of a stack that the request comes to run their course. -/
theorem passage_visited (stages : List Stage) (request : Request) (world : World σ)
    (manageable : ∀ visit ∈ visits timeout stages request world.store world.clock,
      visit.Manageable timeout)
    (timely : world.HasTime
      (waits timeout (visits timeout stages request world.store world.clock))) :
    ∃ after, Visited timeout (visits timeout stages request world.store world.clock) world
      (passage timeout stages request world) after := by
  -- the world changes from stage to stage, but the deadline stays and the time for all waits is there
  -- at the start, so what is left is enough for the stages that are left
  induction stages generalizing world with
  | nil =>
    refine ⟨world, .nothing timeout world, ?_, ?_⟩
    · intro _
      exact ⟨id, keeps_denials_id, rfl⟩
    · intro visit member
      cases member
  | cons stage rest ih =>
    rw [visits] at manageable timely ⊢
    generalize own : stage.visit request world.store world.clock = visit at *
    generalize behind : (if visit.outcome timeout = .denied then []
      else visits timeout rest request (visit.leaves world.store)
        (world.clock.later (visit.wait timeout))) = others at *
    rw [waits_cons, World.has_time_add] at timely
    obtain ⟨timely_own, timely_rest⟩ := timely
    have visited := Stage.visited timeout stage request world
    rw [own] at visited
    obtain ⟨middle, first⟩ := visited (manageable visit List.mem_cons_self) timely_own
    rw [passage]
    by_cases denied : visit.outcome timeout = .denied
    · rw [if_pos denied] at behind
      rw [← behind]
      exact ⟨middle, first.ends denied (passage timeout rest request)⟩
    · rw [if_neg denied] at behind
      obtain ⟨store, clock, deadline⟩ := first.left.handed
      have later : middle.clock = world.clock.later (visit.wait timeout) := clock
      have rest_visited := ih middle
      rw [store, later, behind] at rest_visited
      obtain ⟨after, second⟩ := rest_visited
        (fun other member => manageable other (List.mem_cons_of_mem visit member))
        (by
          unfold World.HasTime at timely_rest ⊢
          rw [clock, deadline]
          exact timely_rest)
      refine ⟨after, first.andThen ?_ second⟩
      intro other member
      rw [List.mem_singleton.mp member]
      exact denied

/-! ## A run -/

/-- A request that comes to stages, and the world that it finds there. -/
structure Pass (σ : Type) where
  request : Request
  world : World σ

namespace Pass

/-- The stages that the request comes to. -/
def visits (timeout : Nanos) (stages : List Stage) (pass : Pass σ) : List (Visit σ) :=
  RateLimit.visits timeout stages pass.request pass.world.store pass.world.clock

/-- The stages can handle the replies that they get, and the time of the request is not up while they
wait for them. -/
structure Unhindered (timeout : Nanos) (stages : List Stage) (pass : Pass σ) : Prop where
  manageable : ∀ visit ∈ pass.visits timeout stages,
    visit.Manageable timeout
  timely : pass.world.HasTime (waits timeout (pass.visits timeout stages))

instance (timeout : Nanos) (stages : List Stage) (pass : Pass σ) :
    Decidable (pass.Unhindered timeout stages) :=
  decidable_of_iff
    ((∀ visit ∈ pass.visits timeout stages, visit.Manageable timeout) ∧
      pass.world.HasTime (waits timeout (pass.visits timeout stages)))
    ⟨fun held => ⟨held.1, held.2⟩, fun held => ⟨held.manageable, held.timely⟩⟩

/-- The stages do with the request what the replies of the store say. -/
structure Conforms (timeout : Nanos) (stages : List Stage) (pass : Pass σ)
    (after : World σ) : Prop where
  in_order : (pass.visits timeout stages).map Visit.stage <+: stages
  denied_last : ∀ visit ∈ (pass.visits timeout stages).dropLast, visit.outcome timeout ≠ .denied
  left : Left timeout (pass.visits timeout stages) pass.world after
  runs_iff : (∃ behind, Reaches (stack timeout stages) pass.request pass.world behind) ↔
    ∀ visit ∈ pass.visits timeout stages, visit.outcome timeout ≠ .denied
  runs : (∀ visit ∈ pass.visits timeout stages, visit.outcome timeout ≠ .denied) →
    (pass.visits timeout stages).map Visit.stage = stages ∧
      Reaches (stack timeout stages) pass.request pass.world after
  denied : ∀ visit ∈ pass.visits timeout stages, visit.outcome timeout = .denied →
    ∃ inquiry snapshot, visit.inquiry = some inquiry ∧
      inquiry.reply? timeout = some (.snapshot snapshot) ∧
      Answers (stack timeout stages) pass.request pass.world
        (Stage.denial visit.stage.policy
          (snapshot.decision visit.stage.policy.limit (inquiry.wall timeout))) after

theorem conforms {stages : List Stage} {pass : Pass σ}
    (unhindered : pass.Unhindered timeout stages) :
    ∃ after, pass.Conforms timeout stages after := by
  obtain ⟨after, visited⟩ :=
    passage_visited stages pass.request pass.world unhindered.manageable unhindered.timely
  have runs (spared : ∀ visit ∈ pass.visits timeout stages, visit.outcome timeout ≠ .denied) :
      Reaches (stack timeout stages) pass.request pass.world after := by
    obtain ⟨mark, _, passed⟩ := visited.passed spared
    refine ⟨mark, fun next => ?_⟩
    rw [stack_passage, passed]
    rfl
  have denied (visit : Visit σ) (member : visit ∈ pass.visits timeout stages)
      (refused : visit.outcome timeout = .denied) :
      ∃ inquiry snapshot, visit.inquiry = some inquiry ∧
        inquiry.reply? timeout = some (.snapshot snapshot) ∧
        Answers (stack timeout stages) pass.request pass.world
          (Stage.denial visit.stage.policy
            (snapshot.decision visit.stage.policy.limit (inquiry.wall timeout))) after := by
    obtain ⟨inquiry, snapshot, asked, got, passed⟩ := visited.denied visit member refused
    refine ⟨inquiry, snapshot, asked, got, fun next => ?_⟩
    rw [stack_passage, passed]
    rfl
  refine ⟨after, visits_in_order, visits_end_with_denial, visited.left, ?_, ?_, denied⟩
  · constructor
    · rintro ⟨behind, reaches⟩ visit member refused
      obtain ⟨_, _, _, _, answers⟩ := denied visit member refused
      exact answers.not_reaches reaches
    · intro spared
      exact ⟨after, runs spared⟩
  · intro spared
    exact ⟨visits_complete spared, runs spared⟩

end Pass

/-- What the stage in some place reports on a run of requests, one entry for each request that comes to
it. -/
def reportsAt (timeout : Nanos) (stages : List Stage) (run : List (Pass σ)) (place : Nat) :
    List Outcome :=
  run.filterMap fun pass => ((pass.visits timeout stages)[place]?).map (Visit.outcome timeout)

/-- A stage reports as often as the stage in front of it lets a request go by. -/
theorem reports_balance (stages : List Stage) (run : List (Pass σ)) (place : Nat)
    (inside : place + 1 < stages.length) :
    (reportsAt timeout stages run (place + 1)).length =
      (reportsAt timeout stages run place).count .allowed +
        (reportsAt timeout stages run place).count .bypassed := by
  induction run with
  | nil => rfl
  | cons pass rest ih =>
    have next := visits_next timeout pass.request pass.world.store pass.world.clock place
      inside
    unfold reportsAt Pass.visits at ih ⊢
    rw [List.filterMap_cons, List.filterMap_cons]
    cases here : (visits timeout stages pass.request pass.world.store
        pass.world.clock)[place]? with
    | none =>
      rw [here, Option.any_none, Option.isSome_eq_false_iff, Option.isNone_iff_eq_none] at next
      rw [next]
      exact ih
    | some visit =>
      rw [here, Option.any_some] at next
      by_cases denied : visit.outcome timeout = .denied
      · simp only [denied, ne_eq, not_true_eq_false, decide_false, Option.isSome_eq_false_iff,
          Option.isNone_iff_eq_none] at next
        simp only [next, Option.map_none, Option.map_some, denied]
        exact ih
      · simp only [denied, ne_eq, not_false_eq_true, decide_true] at next
        obtain ⟨behind, there⟩ := Option.isSome_iff_exists.mp next
        simp only [there, Option.map_some, List.length_cons, ih]
        cases outcome : visit.outcome timeout with
        | allowed => simp; omega
        | bypassed => simp; omega
        | denied => exact absurd outcome denied

/-- On every request of a run the stages do what the replies of the store say, and over the whole run
each stage reports as often as the stage in front of it has allowed or bypassed. The run may be any:
what happens to the world between two requests does not matter. -/
theorem stack_follows_replies (stages : List Stage) (run : List (Pass σ))
    (unhindered : ∀ pass ∈ run, pass.Unhindered timeout stages) :
    (∀ pass ∈ run, ∃ after, pass.Conforms timeout stages after) ∧
      ∀ place, place + 1 < stages.length →
        (reportsAt timeout stages run (place + 1)).length =
          (reportsAt timeout stages run place).count .allowed +
            (reportsAt timeout stages run place).count .bypassed := by
  constructor
  · intro pass member
    exact Pass.conforms (unhindered pass member)
  · intro place inside
    exact reports_balance stages run place inside

/-- A request that the second stage denies, and one that nobody counts: the store fails at the first
stage, and at the second there is no address to count it by. The reset time in the denial counts from
the end of the wait at the first stage, when the next second has begun. -/
theorem stack_follows_replies_mixed :
    let timeout := standardStoreTimeout
    let stages : List Stage := [⟨.global, .ofSeconds 5 60, true⟩, ⟨.client, .ofSeconds 1 10, true⟩]
    let known : Request :=
      ⟨"GET", "/", ⟨[("x-real-ip", [49, 46, 49, 46, 49, 46, 49])]⟩, [], none, none, none⟩
    let unknown : Request := ⟨"GET", "/", .empty, [], none, none, none⟩
    let denied : Pass PreparedStore := ⟨known, World.start 1_700_000_000_990_000_000
      (.ofReplies [⟨.snapshot ⟨3, 30⟩, 20_000_000⟩, ⟨.snapshot ⟨2, 10⟩, 0⟩])⟩
    let run : List (Pass PreparedStore) :=
      [denied, ⟨unknown, World.start 0 (.ofReplies [⟨.failed (.malformed ""), 0⟩])⟩]
    (∀ pass ∈ run, pass.Unhindered timeout stages) ∧
      (∀ pass ∈ run, ∃ after, pass.Conforms timeout stages after) ∧
      (∃ after, Answers (stack timeout stages) known denied.world
        (Stage.denial (.ofSeconds 1 10) ⟨false, 2, 0, 1_700_000_011_010_000_000⟩) after) ∧
      reportsAt timeout stages run 0 = [.allowed, .bypassed] ∧
      reportsAt timeout stages run 1 = [.denied, .bypassed] ∧
      (reportsAt timeout stages run 1).length =
        (reportsAt timeout stages run 0).count .allowed +
          (reportsAt timeout stages run 0).count .bypassed := by
  intro timeout stages known unknown denied run
  have unhindered : ∀ pass ∈ run, pass.Unhindered timeout stages := by decide
  obtain ⟨conforms, balance⟩ := stack_follows_replies stages run unhindered
  refine ⟨unhindered, conforms, ?_, by decide, by decide, balance 0 (by decide)⟩
  obtain ⟨after, told⟩ := conforms denied List.mem_cons_self
  let second : Visit PreparedStore := (denied.visits timeout stages)[1]
  obtain ⟨inquiry, snapshot, asked, got, answers⟩ :=
    told.denied second (List.getElem_mem _) (by decide)
  have wall : second.inquiry.map (·.wall timeout) = some 1_700_000_001_010_000_000 := by decide
  have reply : second.inquiry.bind (·.reply? timeout) = some (.snapshot ⟨2, 10⟩) := by decide
  rw [asked, Option.map_some, Option.some.injEq] at wall
  rw [asked] at reply
  cases got.symm.trans reply
  rw [wall] at answers
  exact ⟨after, answers⟩

end RateLimit
end Gatehouse
