import Gatehouse.Service.World

/-! What performing an activity comes to, operation by operation. A sequence is performed from the
left and ends where a part of it ends. Only the wait looks at the deadline, so an activity that takes
a known time either gets its result or is cut off, and the deadline alone decides which. -/
namespace Gatehouse

variable {σ α β : Type}

namespace Clock

@[simp]
theorem wall_running (wall : Int) (timer : Nanos) : (running wall timer).wall = wall := by
  simp [Clock.wall, running]

@[simp]
theorem timer_running (wall : Int) (timer : Nanos) : (running wall timer).timer = timer := rfl

@[simp]
theorem timer_later (clock : Clock) (pause : Nanos) :
    (clock.later pause).timer = clock.timer + pause := rfl

@[simp]
theorem later_zero (clock : Clock) : clock.later 0 = clock := rfl

@[simp]
theorem later_later (clock : Clock) (first second : Nanos) :
    (clock.later first).later second = clock.later (first + second) := by
  simp only [later, Nat.add_assoc]

end Clock

namespace World

/-- Whether a wait of some length that starts now is over before the deadline. -/
def HasTime (world : World σ) (pause : Nanos) : Prop :=
  pause = 0 ∨ ∀ deadline ∈ world.deadline, world.clock.timer + pause < deadline

instance (world : World σ) (pause : Nanos) : Decidable (world.HasTime pause) :=
  inferInstanceAs (Decidable (_ ∨ _))

/-- The world after a wait. -/
def later (world : World σ) (pause : Nanos) : World σ :=
  { world with clock := world.clock.later pause }

/-- The world once the time of the request is up. -/
def expired (world : World σ) : World σ :=
  { world with clock := { world.clock with
      timer := max world.clock.timer (world.deadline.getD world.clock.timer) } }

/-- The same world with another deadline. -/
def withDeadline (world : World σ) (deadline : Option Nanos) : World σ :=
  { world with deadline }

/-- The world after an event has been written to the log. -/
def logged (world : World σ) (event : Event) : World σ :=
  { world with journal := { world.journal with events := world.journal.events ++ [event] } }

theorem has_time_zero (world : World σ) : world.HasTime 0 := .inl rfl

/-- Time for one wait and then for another is time for both together. -/
theorem has_time_add (world : World σ) (first second : Nanos) :
    world.HasTime (first + second) ↔
      world.HasTime first ∧ (world.later first).HasTime second := by
  unfold HasTime later Nanos
  cases world.deadline with
  | none => simp
  | some deadline =>
    simp only [Option.mem_def, Option.some.injEq, forall_eq', Clock.timer_later]
    unfold Nanos at *
    omega

theorem has_time_none (world : World σ) (pause : Nanos) (unhurried : world.deadline = none) :
    world.HasTime pause := by
  right
  intro deadline set
  rw [unhurried] at set
  cases set

/-- Before a deadline that is still to come there is time for exactly the shorter waits. -/
theorem has_time_of_left (world : World σ) (left pause : Nanos) (ahead : 0 < left)
    (deadline : world.deadline = some (world.clock.timer + left)) :
    world.HasTime pause ↔ pause < left := by
  unfold HasTime
  rw [deadline]
  simp only [Option.mem_def, Option.some.injEq, forall_eq']
  unfold Nanos at *
  omega

end World

namespace Run

theorem perform_bind (activity : Run σ α) (next : α → Run σ β) (world : World σ) :
    (activity >>= next).perform world =
      match activity.perform world with
      | (.ok value, after) => (next value).perform after
      | (.error interrupt, after) => (.error interrupt, after) := by
  simp only [perform, ExceptT.run_bind, StateT.run_bind]
  rcases (ExceptT.run activity).run world with ⟨outcome, after⟩
  cases outcome with
  | error interrupt => rfl
  | ok value => rfl

theorem perform_get (world : World σ) :
    (get : Run σ (World σ)).perform world = (.ok world, world) := rfl

theorem perform_set (after world : World σ) :
    (set after : Run σ PUnit).perform world = (.ok ⟨⟩, after) := rfl

theorem perform_modify (change : World σ → World σ) (world : World σ) :
    (modify change : Run σ PUnit).perform world = (.ok ⟨⟩, change world) := rfl

theorem perform_tryCatch (activity : Run σ α) (handle : Interrupt → Run σ α) (world : World σ) :
    (tryCatch activity handle).perform world =
      match activity.perform world with
      | (.ok value, after) => (.ok value, after)
      | (.error interrupt, after) => (handle interrupt).perform after := by
  simp only [perform, ExceptT.run_tryCatch, StateT.run_bind]
  rcases (ExceptT.run activity).run world with ⟨outcome, after⟩
  cases outcome with
  | error interrupt => rfl
  | ok value => rfl

theorem perform_log (event : Event) (world : World σ) :
    (log event : Run σ Unit).perform world = (.ok (), world.logged event) := rfl

/-- A wait is over before the deadline, or the deadline ends it. -/
theorem perform_wait (pause : Nanos) (world : World σ) :
    (wait pause : Run σ Unit).perform world =
      if world.HasTime pause then (.ok (), world.later pause)
      else (.error .timeUp, world.expired) := by
  rcases world with ⟨clock, deadline, store, metrics, journal⟩
  unfold wait
  rw [perform_bind, perform_get]
  by_cases brief : pause = 0
  · subst brief
    rw [if_pos (World.has_time_zero _)]
    rfl
  · simp only [brief, if_false]
    cases deadline with
    | none =>
      rw [if_pos (World.has_time_none _ pause rfl)]
      rfl
    | some limit =>
      have fits : World.HasTime ⟨clock, some limit, store, metrics, journal⟩ pause ↔
          ¬ limit ≤ clock.timer + pause := by
        simp only [World.HasTime, brief, false_or, Option.mem_def, Option.some.injEq, forall_eq',
          Nat.not_le]
      by_cases late : limit ≤ clock.timer + pause
      · rw [if_neg (fun timely => fits.mp timely late)]
        simp only [late, if_true]
        rfl
      · rw [if_pos (fits.mpr late)]
        simp only [late, if_false]
        rfl

theorem perform_wait_then (pause : Nanos) (next : Run σ β) (world : World σ) :
    (do wait pause; next : Run σ β).perform world =
      if world.HasTime pause then next.perform (world.later pause)
      else (.error .timeUp, world.expired) := by
  rw [perform_bind, perform_wait]
  by_cases timely : world.HasTime pause
  · rw [if_pos timely, if_pos timely]
  · rw [if_neg timely, if_neg timely]

/-- The time an activity takes where nothing hurries it. -/
def duration (activity : Run σ α) (world : World σ) : Nanos :=
  (activity.perform (world.withDeadline none)).2.clock.timer - world.clock.timer

/-- An activity that gives a result of some kind after a known time, unless its time is up before.
Nothing but the deadline may decide between the two. -/
structure Takes (activity : Run σ α) (world : World σ) (pause : Nanos) (fits : α → Prop) :
    Prop where
  gives : ∀ deadline, (world.withDeadline deadline).HasTime pause →
    ∃ value final, activity.perform (world.withDeadline deadline) = (.ok value, final) ∧
      fits value ∧ final.clock = (world.later pause).clock ∧ final.deadline = deadline
  cut_off : ∀ deadline, ¬ (world.withDeadline deadline).HasTime pause →
    ∃ final, activity.perform (world.withDeadline deadline) = (.error .timeUp, final)

namespace Takes

variable {activity : Run σ α} {world : World σ} {pause : Nanos} {fits : α → Prop}

theorem duration_eq (takes : Takes activity world pause fits) :
    activity.duration world = pause := by
  obtain ⟨value, final, performed, _, clock, _⟩ :=
    takes.gives none (World.has_time_none _ pause rfl)
  unfold duration
  rw [performed, clock]
  exact Nat.add_sub_cancel_left world.clock.timer pause

/-- What is known of every result holds of the one that there is in time. -/
theorem narrow {suits : α → Prop} (takes : Takes activity world pause fits)
    (known : ∀ deadline value final,
      activity.perform (world.withDeadline deadline) = (.ok value, final) → fits value →
        suits value) : Takes activity world pause suits := by
  refine ⟨fun deadline timely => ?_, takes.cut_off⟩
  obtain ⟨value, final, performed, fit, moved, kept⟩ := takes.gives deadline timely
  exact ⟨value, final, performed, known deadline value final performed fit, moved, kept⟩

/-- Changes that take no time may stand in front. -/
theorem of_perform {rest : Run σ α} {after : World σ} (takes : Takes rest after pause fits)
    (clock : after.clock = world.clock)
    (same : ∀ deadline, activity.perform (world.withDeadline deadline) =
      rest.perform (after.withDeadline deadline)) :
    Takes activity world pause fits := by
  constructor
  · intro deadline timely
    have timely_after : (after.withDeadline deadline).HasTime pause := by
      simpa only [World.HasTime, World.withDeadline, clock] using timely
    obtain ⟨value, final, performed, suits, moved, kept⟩ := takes.gives deadline timely_after
    refine ⟨value, final, (same deadline).trans performed, suits, ?_, kept⟩
    rw [moved]
    simp only [World.later, clock]
  · intro deadline late
    have late_after : ¬ (after.withDeadline deadline).HasTime pause := by
      simpa only [World.HasTime, World.withDeadline, clock] using late
    obtain ⟨final, performed⟩ := takes.cut_off deadline late_after
    exact ⟨final, (same deadline).trans performed⟩

/-- An activity that does not wait is never cut off. -/
theorem instant (gives : ∀ deadline, ∃ value final,
      activity.perform (world.withDeadline deadline) = (.ok value, final) ∧ fits value ∧
        final.clock = world.clock ∧ final.deadline = deadline) :
    Takes activity world 0 fits :=
  ⟨fun deadline _ => gives deadline,
    fun _ late => absurd (World.has_time_zero _) late⟩

theorem of_wait (world : World σ) (pause : Nanos) :
    Takes (wait pause) world pause (fun _ => True) := by
  constructor
  · intro deadline timely
    rw [perform_wait, if_pos timely]
    exact ⟨(), _, rfl, trivial, rfl, rfl⟩
  · intro deadline late
    rw [perform_wait, if_neg late]
    exact ⟨_, rfl⟩

/-- One activity after another takes the time of both. The second finds the clocks where the first
has left them. -/
theorem bind {next : α → Run σ β} {rest : Nanos} {suits : β → Prop}
    (first : Takes activity world pause fits)
    (second : ∀ value final, fits value → final.clock = (world.later pause).clock →
      Takes (next value) final rest suits) :
    Takes (activity >>= next) world (pause + rest) suits := by
  constructor
  · intro deadline timely
    rw [World.has_time_add] at timely
    obtain ⟨timely_first, timely_rest⟩ := timely
    obtain ⟨value, middle, performed, fit, clock, kept⟩ := first.gives deadline timely_first
    have unchanged : middle.withDeadline deadline = middle := by
      rw [← kept]
      rfl
    have timely_second : (middle.withDeadline deadline).HasTime rest := by
      simpa only [World.HasTime, World.withDeadline, World.later, clock] using timely_rest
    obtain ⟨result, final, finished, suit, moved, held⟩ :=
      (second value middle fit clock).gives deadline timely_second
    refine ⟨result, final, ?_, suit, ?_, held⟩
    · rw [perform_bind, performed]
      rw [unchanged] at finished
      exact finished
    · rw [moved]
      simp only [World.later, clock, Clock.later_later]
  · intro deadline late
    rw [World.has_time_add, not_and] at late
    rw [perform_bind]
    by_cases timely_first : (world.withDeadline deadline).HasTime pause
    · obtain ⟨value, middle, performed, fit, clock, kept⟩ := first.gives deadline timely_first
      have unchanged : middle.withDeadline deadline = middle := by
        rw [← kept]
        rfl
      have late_second : ¬ (middle.withDeadline deadline).HasTime rest := by
        simpa only [World.HasTime, World.withDeadline, World.later, clock] using
          late timely_first
      obtain ⟨final, finished⟩ :=
        (second value middle fit clock).cut_off deadline late_second
      rw [unchanged] at finished
      exact ⟨final, by rw [performed]; exact finished⟩
    · obtain ⟨final, performed⟩ := first.cut_off deadline timely_first
      exact ⟨final, by rw [performed]⟩

/-- Looking at the world and changing what is not a clock takes no time. -/
theorem then_instant {next : α → Run σ β} {suits : β → Prop}
    (first : Takes activity world pause fits)
    (second : ∀ value, fits value → ∀ final : World σ, final.clock = (world.later pause).clock →
      ∃ result last, (next value).perform final = (.ok result, last) ∧ suits result ∧
        last.clock = final.clock ∧ last.deadline = final.deadline) :
    Takes (activity >>= next) world pause suits := by
  have at_once (value : α) (final : World σ) (fit : fits value)
      (clock : final.clock = (world.later pause).clock) : Takes (next value) final 0 suits :=
    .instant fun deadline => second value fit (final.withDeadline deadline) clock
  exact first.bind at_once

end Takes

end Run

/-! ## Layers

What a layer does with a request shows in what it does whatever stands behind it. -/

/-- What stands behind a layer runs once on a request, as it came, in a known world, and nothing but
header fields is added to its answer. -/
def Reaches (layer : Layer σ) (request : Request) (world after : World σ) : Prop :=
  ∃ mark, ∀ next : Handler σ,
    (layer next request).perform world =
      (((next request).perform after).1.map (·.mapHeaders mark), ((next request).perform after).2)

/-- A layer hands a request on: what stands behind it runs once, on the request as `seen`, and its
outcome is that of the whole. -/
def HandsOn (layer : Layer σ) (request : Request) (world : World σ) (seen : Request)
    (after : World σ) : Prop :=
  ∀ next : Handler σ, (layer next request).perform world = (next seen).perform after

/-- A layer answers a request itself. -/
def Answers (layer : Layer σ) (request : Request) (world : World σ) (answer : Response)
    (after : World σ) : Prop :=
  ∀ next : Handler σ, (layer next request).perform world = (.ok answer, after)

/-- A layer ends the handling of a request. -/
def Ends (layer : Layer σ) (request : Request) (world : World σ) (interrupt : Interrupt)
    (after : World σ) : Prop :=
  ∀ next : Handler σ, (layer next request).perform world = (.error interrupt, after)

namespace Answers

variable {layer : Layer σ} {request seen : Request} {world after behind : World σ}
  {answer : Response}

theorem not_reaches (answers : Answers layer request world answer after) :
    ¬ Reaches layer request world behind := by
  rintro ⟨mark, reaches⟩
  have interrupted := reaches fun _ => throw .timeUp
  rw [answers] at interrupted
  cases interrupted

theorem not_hands_on (answers : Answers layer request world answer after) :
    ¬ HandsOn layer request world seen behind := by
  intro handed
  have interrupted := handed fun _ => throw .timeUp
  rw [answers] at interrupted
  cases interrupted

theorem unique {other : Response} {last : World σ} (answers : Answers layer request world answer after)
    (also : Answers layer request world other last) : answer = other := by
  have both := (answers fun _ => throw .timeUp).symm.trans (also fun _ => throw .timeUp)
  cases both
  rfl

end Answers
end Gatehouse
