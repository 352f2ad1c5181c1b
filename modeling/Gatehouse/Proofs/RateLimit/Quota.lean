import Gatehouse.Proofs.RateLimit.Checks

/-! What a limit admits over time. The checks of one key fall apart into periods, each as long as the
window and none overlapping another. In a period the first checks are allowed, up to the limit, and no
stretch of time as long as a period touches more than two of them. -/
namespace Gatehouse.RateLimit

/-! ## Periods -/

/-- What a check was told, and when. -/
structure Told where
  time : Nanos
  decision : Decision
  deriving DecidableEq, Repr

def Told.allowed (told : Told) : Bool := told.decision.allowed

/-- Checks that follow some others in their window are told their place in it: they are allowed up to
the limit, and learn what remains of it. -/
def Ranked (limit before : Nat) (checks : List Told) : Prop :=
  ∀ place told, checks[place]? = some told →
    told.decision.count = before + place + 1 ∧
      told.allowed = decide (before + place < limit) ∧
      told.decision.remaining = limit - (before + place + 1)

/-- A stretch of time that starts with a check, and the checks in it. -/
structure Period where
  start : Nanos
  checks : List Told

/-- A period of some length whose checks are ranked from the first on. -/
structure Period.Keeps (length : Nanos) (limit : Nat) (period : Period) : Prop where
  opened : period.checks.head?.map Told.time = some period.start
  within : ∀ told ∈ period.checks, period.start ≤ told.time ∧ told.time < period.start + length
  ranked : Ranked limit 0 period.checks

/-- One period is over before the other begins. -/
def Period.Before (length : Nanos) (first second : Period) : Prop :=
  first.start + length ≤ second.start

/-- How many checks are allowed from some time on, for as long as a period lasts. -/
def allowedFrom (start length : Nanos) (checks : List Told) : Nat :=
  checks.countP fun told =>
    told.allowed && decide (start ≤ told.time ∧ told.time < start + length)

namespace Ranked

variable {limit before : Nat} {told : Told} {rest : List Told}

theorem nil : Ranked limit before [] := by
  intro place told found
  cases found

theorem cons (count : told.decision.count = before + 1)
    (allowed : told.allowed = decide (before < limit))
    (remaining : told.decision.remaining = limit - (before + 1))
    (behind : Ranked limit (before + 1) rest) : Ranked limit before (told :: rest) := by
  intro place other found
  cases place with
  | zero =>
    cases found
    exact ⟨count, allowed, remaining⟩
  | succ place =>
    have own := behind place other found
    rw [Nat.add_right_comm before 1 place] at own
    exact own

theorem head (ranked : Ranked limit before (told :: rest)) :
    told.allowed = decide (before < limit) :=
  (ranked 0 told rfl).2.1

theorem tail (ranked : Ranked limit before (told :: rest)) : Ranked limit (before + 1) rest := by
  intro place other found
  have own := ranked (place + 1) other found
  rw [← Nat.add_assoc, Nat.add_right_comm before place 1] at own
  exact own

/-- The allowed checks are the first ones. -/
theorem allowed_first {checks : List Told} (ranked : Ranked limit before checks) :
    checks.filter Told.allowed = checks.take (limit - before) := by
  induction checks generalizing before with
  | nil => exact List.take_nil.symm
  | cons told rest ih =>
    have behind := ih ranked.tail
    by_cases room : before < limit
    · have kept : told.allowed = true := ranked.head.trans (decide_eq_true room)
      have next : limit - before = limit - (before + 1) + 1 := by omega
      rw [List.filter_cons_of_pos kept, behind, next, List.take_succ_cons]
    · have refused : ¬ told.allowed = true := by
        rw [ranked.head, decide_eq_true_iff]
        exact room
      have full : limit - before = 0 := by omega
      have still_full : limit - (before + 1) = 0 := by omega
      rw [List.filter_cons_of_neg refused, behind, full, still_full, List.take_zero, List.take_zero]

end Ranked

/-! ## Counting -/

variable {length start : Nanos} {limit : Nat}

theorem allowed_from_append (first second : List Told) :
    allowedFrom start length (first ++ second) =
      allowedFrom start length first + allowedFrom start length second := List.countP_append ..

namespace Period

/-- A period allows as many checks as the limit, at most. -/
theorem allowed_le_limit {period : Period} (keeps : period.Keeps length limit) :
    period.checks.countP Told.allowed ≤ limit := by
  rw [List.countP_eq_length_filter, keeps.ranked.allowed_first]
  exact List.length_take_le limit period.checks

theorem allowed_le {period : Period} (keeps : period.Keeps length limit) :
    allowedFrom start length period.checks ≤ limit := by
  refine Nat.le_trans ?_ (allowed_le_limit keeps)
  apply List.countP_mono_left
  intro told _ counted
  exact (Bool.and_eq_true_iff.mp counted).1

/-- A period that lies outside adds nothing. -/
theorem allowed_outside {period : Period} (keeps : period.Keeps length limit)
    (outside : period.start + length ≤ start ∨ start + length ≤ period.start) :
    allowedFrom start length period.checks = 0 := by
  apply List.countP_eq_zero.mpr
  intro told member counted
  obtain ⟨opened, closed⟩ := keeps.within told member
  obtain ⟨begun, ended⟩ := of_decide_eq_true (Bool.and_eq_true_iff.mp counted).2
  rcases outside with past | ahead
  · exact absurd (Nat.lt_of_lt_of_le closed past) (Nat.not_lt.mpr begun)
  · exact absurd (Nat.lt_of_lt_of_le ended ahead) (Nat.not_lt.mpr opened)

variable {periods : List Period}

theorem allowed_ahead (keeps : ∀ period ∈ periods, period.Keeps length limit)
    (ahead : ∀ period ∈ periods, start + length ≤ period.start) :
    allowedFrom start length (periods.flatMap Period.checks) = 0 := by
  induction periods with
  | nil => rfl
  | cons period rest ih =>
    obtain ⟨own, others⟩ := List.forall_mem_cons.mp keeps
    obtain ⟨own_ahead, others_ahead⟩ := List.forall_mem_cons.mp ahead
    rw [List.flatMap_cons, allowed_from_append, allowed_outside own (.inr own_ahead),
      ih others others_ahead]

/-- Of the periods that start within a stretch as long as one of them there is one at most. -/
theorem allowed_begun (keeps : ∀ period ∈ periods, period.Keeps length limit)
    (apart : periods.Pairwise (Before length)) (begun : ∀ period ∈ periods, start ≤ period.start) :
    allowedFrom start length (periods.flatMap Period.checks) ≤ limit := by
  cases periods with
  | nil => exact Nat.zero_le limit
  | cons period rest =>
    obtain ⟨own, others⟩ := List.forall_mem_cons.mp keeps
    obtain ⟨before, _⟩ := List.pairwise_cons.mp apart
    have started := begun period List.mem_cons_self
    have ahead : ∀ other ∈ rest, start + length ≤ other.start := by
      intro other member
      exact Nat.le_trans (Nat.add_le_add_right started length) (before other member)
    rw [List.flatMap_cons, allowed_from_append, allowed_ahead others ahead]
    exact allowed_le own

/-- No stretch as long as a period touches more than two of them. -/
theorem allowed_le_twice (keeps : ∀ period ∈ periods, period.Keeps length limit)
    (apart : periods.Pairwise (Before length)) :
    allowedFrom start length (periods.flatMap Period.checks) ≤ 2 * limit := by
  induction periods with
  | nil => exact Nat.zero_le _
  | cons period rest ih =>
    obtain ⟨own, others⟩ := List.forall_mem_cons.mp keeps
    obtain ⟨before, others_apart⟩ := List.pairwise_cons.mp apart
    rw [List.flatMap_cons, allowed_from_append]
    by_cases past : period.start + length ≤ start
    · rw [allowed_outside own (.inl past), Nat.zero_add]
      exact ih others others_apart
    -- the first period that is not past is one of the two; those after it start in the stretch
    · have begun : ∀ other ∈ rest, start ≤ other.start := by
        intro other member
        exact Nat.le_trans (Nat.le_of_not_le past) (before other member)
      rw [Nat.two_mul]
      exact Nat.add_le_add (allowed_le own) (allowed_begun others others_apart begun)

end Period

/-! ## A run -/

/-- One thing that happens to the store: a check of the key, or any call on another one. -/
inductive Step where
  | check (clock : Clock)
  | other (call : Call)

/-- The timer reading of a step. -/
def Step.time : Step → Nanos
  | check clock => clock.timer
  | other call => call.now

/-- What the checks of a run come to, and when. The world goes on from step to step, and nothing but
time passes in between. -/
def outcomes (timeout : Nanos) (key : Key) (limit seconds : Nat) :
    List Step → World MemoryStore →
      List (Nanos × Except Interrupt (Except LimitError Decision))
  | [], _ => []
  | .check clock :: rest, world =>
    let (outcome, after) :=
      (checkLimit timeout key limit (seconds * 1_000_000_000)).perform { world with clock }
    (clock.timer, outcome) :: outcomes timeout key limit seconds rest after
  | .other call :: rest, world =>
    outcomes timeout key limit seconds rest
      { world with store := (world.store.increment call.now call.key call.ttl).1 }

/-- A check that has been decided. -/
def Told.outcome (told : Told) : Nanos × Except Interrupt (Except LimitError Decision) :=
  (told.time, .ok (.ok told.decision))

/-- The checks after some time, told apart: those that are still counted in the live bucket of the key,
and the periods that start after it. -/
structure Split (length : Nanos) (limit : Nat) (live : Option Bucket) (now : Nanos)
    (joined : List Told) (periods : List Period) : Prop where
  inBucket : ∀ told ∈ joined, now ≤ told.time ∧ ∃ bucket ∈ live, told.time < bucket.expiresAt
  ranked : ∀ bucket ∈ live, Ranked limit bucket.count joined
  keeps : ∀ period ∈ periods, period.Keeps length limit
  later : ∀ period ∈ periods, now ≤ period.start ∧ ∀ bucket ∈ live, bucket.expiresAt ≤ period.start
  apart : periods.Pairwise (Period.Before length)

namespace Split

variable {live : Option Bucket} {now : Nanos} {joined : List Told} {periods : List Period}

theorem nothing : Split length limit live now [] [] := by
  constructor
  · intro told member
    cases member
  · intro bucket _
    exact .nil
  · intro period member
    cases member
  · intro period member
    cases member
  · exact .nil

/-- Before a while without checks the same ones lie ahead; a bucket that has died meanwhile has none. -/
theorem earlier {later : Nanos} (passed : now ≤ later)
    (split : Split length limit (live.filter (·.isLive later)) later joined periods) :
    Split length limit live now joined periods := by
  constructor
  · intro told member
    obtain ⟨behind, bucket, counted, inside⟩ := split.inBucket told member
    exact ⟨Nat.le_trans passed behind, bucket, (Option.mem_filter_iff.mp counted).1, inside⟩
  · intro bucket counted
    -- nothing is counted any more in a bucket that has died
    by_cases isLive : bucket.isLive later
    · exact split.ranked bucket (Option.mem_filter_iff.mpr ⟨counted, isLive⟩)
    · have none_joined : joined = [] := by
        apply List.eq_nil_iff_forall_not_mem.mpr
        intro told member
        obtain ⟨_, other, held, _⟩ := split.inBucket told member
        obtain ⟨also_counted, alive⟩ := Option.mem_filter_iff.mp held
        rw [Option.mem_unique also_counted counted] at alive
        exact isLive alive
      rw [none_joined]
      exact .nil
  · exact split.keeps
  · intro period member
    obtain ⟨behind, live_over⟩ := split.later period member
    refine ⟨Nat.le_trans passed behind, fun bucket counted => ?_⟩
    by_cases isLive : bucket.isLive later
    · exact live_over bucket (Option.mem_filter_iff.mpr ⟨counted, isLive⟩)
    · have dead : bucket.expiresAt ≤ later := Nat.le_of_not_lt fun alive => isLive (decide_eq_true alive)
      exact Nat.le_trans dead behind
  · exact split.apart

/-- A check joins the live bucket, or opens a period. -/
theorem check (told : Told) (positive : 0 < length)
    (isLive : ∀ bucket ∈ live, bucket.isLive told.time)
    (count : told.decision.count = (Bucket.next live told.time length).count)
    (allowed : told.allowed = decide (told.decision.count ≤ limit))
    (remaining : told.decision.remaining = limit - told.decision.count)
    (split : Split length limit (some (Bucket.next live told.time length)) told.time joined
      periods) :
    ∃ others rest, told :: (joined ++ periods.flatMap Period.checks) =
        others ++ rest.flatMap Period.checks ∧
      Split length limit live told.time others rest := by
  cases live with
  | some bucket =>
    refine ⟨told :: joined, periods, rfl, ?_⟩
    constructor
    · intro other member
      rcases List.mem_cons.mp member with here | there
      · subst here
        exact ⟨Nat.le_refl _, bucket, rfl, of_decide_eq_true (isLive bucket rfl)⟩
      · obtain ⟨behind, same, counted, inside⟩ := split.inBucket other there
        cases counted
        exact ⟨behind, bucket, rfl, inside⟩
    · intro same counted
      cases counted
      exact Ranked.cons count (by rw [allowed, count]; rfl) (by rw [remaining, count]; rfl)
        (split.ranked _ rfl)
    · exact split.keeps
    · intro period member
      obtain ⟨behind, after⟩ := split.later period member
      refine ⟨behind, fun same counted => ?_⟩
      cases counted
      exact after (Bucket.next (some bucket) told.time length) rfl
    · exact split.apart
  | none =>
    refine ⟨[], ⟨told.time, told :: joined⟩ :: periods, rfl, ?_⟩
    constructor
    · intro other member
      cases member
    · intro bucket counted
      cases counted
    · refine List.forall_mem_cons.mpr ⟨⟨rfl, ?_, ?_⟩, split.keeps⟩
      · intro other member
        rcases List.mem_cons.mp member with here | there
        · subst here
          exact ⟨Nat.le_refl _, Nat.lt_add_of_pos_right positive⟩
        · obtain ⟨behind, bucket, counted, inside⟩ := split.inBucket other there
          cases counted
          exact ⟨behind, inside⟩
      · exact Ranked.cons count (by rw [allowed, count]; rfl) (by rw [remaining, count]; rfl)
          (split.ranked _ rfl)
    · intro period member
      refine ⟨?_, fun bucket counted => ?_⟩
      · rcases List.mem_cons.mp member with here | there
        · rw [here]
        · exact (split.later period there).1
      · cases counted
    · refine List.pairwise_cons.mpr ⟨?_, split.apart⟩
      intro period member
      exact (split.later period member).2 _ rfl

end Split

/-- A run of checks falls apart into those of the bucket that is live at its start, and periods. -/
theorem outcomes_split (timeout : Nanos) (key : Key) (limit : Nat) {seconds : Nat}
    (positive : 1 ≤ seconds) (run : List Step) (world : World MemoryStore) (now : Nanos)
    (begun : ∀ step ∈ run, now ≤ step.time)
    (ordered : run.Pairwise fun first second => first.time ≤ second.time)
    (elsewhere : ∀ call, .other call ∈ run → call.key ≠ key.text)
    (within : ∀ clock, .check clock ∈ run → WithinClocks seconds clock)
    (short : ∀ bucket ∈ world.store.live? key.text now,
      bucket.expiresAt ≤ now + seconds * 1_000_000_000) :
    ∃ joined periods, outcomes timeout key limit seconds run world =
        (joined ++ periods.flatMap Period.checks).map Told.outcome ∧
      Split (seconds * 1_000_000_000) limit (world.store.live? key.text now) now joined
        periods := by
  -- the split is that of the live bucket, so the rest of the run is split by the bucket as it is
  -- after the step, and the step itself puts its check in front
  induction run generalizing world now with
  | nil => exact ⟨[], [], rfl, .nothing⟩
  | cons step rest ih =>
    obtain ⟨behind, rest_ordered⟩ := List.pairwise_cons.mp ordered
    have passed := begun step List.mem_cons_self
    have rest_elsewhere (call : Call) (member : .other call ∈ rest) :=
      elsewhere call (List.mem_cons_of_mem step member)
    have rest_within (clock : Clock) (member : .check clock ∈ rest) :=
      within clock (List.mem_cons_of_mem step member)
    have live : world.store.live? key.text step.time =
        (world.store.live? key.text now).filter (·.isLive step.time) :=
      MemoryStore.live_later passed
    have still_short : ∀ bucket ∈ world.store.live? key.text step.time,
        bucket.expiresAt ≤ step.time + seconds * 1_000_000_000 := by
      intro bucket counted
      rw [live] at counted
      exact Nat.le_trans (short bucket (Option.mem_filter_iff.mp counted).1)
        (Nat.add_le_add_right passed _)
    suffices from_step : ∃ joined periods,
        outcomes timeout key limit seconds (step :: rest) world =
          (joined ++ periods.flatMap Period.checks).map Told.outcome ∧
        Split (seconds * 1_000_000_000) limit (world.store.live? key.text step.time) step.time
          joined periods by
      obtain ⟨joined, periods, told, split⟩ := from_step
      rw [live] at split
      exact ⟨joined, periods, told, split.earlier passed⟩
    cases step with
    | other call =>
      have untouched : (world.store.increment call.now call.key call.ttl).1.live? key.text call.now =
          world.store.live? key.text call.now :=
        MemoryStore.live_after_other (elsewhere call List.mem_cons_self).symm
      have onwards := ih { world with store := (world.store.increment call.now call.key call.ttl).1 }
        call.now behind rest_ordered rest_elsewhere rest_within
      rw [untouched] at onwards
      exact onwards still_short
    | check clock =>
      obtain ⟨resetAt, after, performed, counted, _⟩ := check_decided timeout key limit
        { world with clock } positive (within clock List.mem_cons_self) still_short
      have onwards := ih after clock.timer behind rest_ordered rest_elsewhere rest_within
      rw [counted] at onwards
      obtain ⟨joined, periods, told, split⟩ := onwards (by
        intro bucket member
        cases member
        exact Bucket.next_short still_short)
      have lasting : 0 < seconds * 1_000_000_000 := Nat.mul_pos positive (by decide)
      have isLive : ∀ bucket ∈ world.store.live? key.text clock.timer, bucket.isLive clock.timer :=
        MemoryStore.live_isLive
      let bucket := Bucket.next (world.store.live? key.text clock.timer) clock.timer
        (seconds * 1_000_000_000)
      let own : Told := ⟨clock.timer,
        ⟨decide (bucket.count ≤ limit), bucket.count, limit - bucket.count, resetAt⟩⟩
      obtain ⟨others, windows, apart, whole⟩ := split.check own lasting isLive rfl rfl rfl
      refine ⟨others, windows, ?_, whole⟩
      rw [← apart, outcomes, performed]
      exact congrArg (own.outcome :: ·) told

/-- However long it runs, a limit holds over every stretch of time. The checks of a key fall apart into
periods that do not overlap, each as long as the window. In each of them the first checks are allowed, up
to the limit, and are told what remains; the later ones are denied with nothing left. So no stretch as
long as a period has more than twice the limit of allowed checks. -/
theorem allowed_in_any_stretch (timeout : Nanos) (key : Key) (limit seconds : Nat)
    (positive : 1 ≤ seconds) (world : World MemoryStore) (run : List Step)
    (unused : world.store.live? key.text world.clock.timer = none)
    (begun : ∀ step ∈ run, world.clock.timer ≤ step.time)
    (ordered : run.Pairwise fun first second => first.time ≤ second.time)
    (elsewhere : ∀ call, .other call ∈ run → call.key ≠ key.text)
    (within : ∀ clock, .check clock ∈ run → WithinClocks seconds clock) :
    ∃ periods : List Period,
      outcomes timeout key limit seconds run world =
          (periods.flatMap Period.checks).map Told.outcome ∧
        periods.Pairwise (Period.Before (seconds * 1_000_000_000)) ∧
        (∀ period ∈ periods, period.Keeps (seconds * 1_000_000_000) limit ∧
          period.checks.filter Told.allowed = period.checks.take limit ∧
          period.checks.countP Told.allowed ≤ limit) ∧
        ∀ start, allowedFrom start (seconds * 1_000_000_000) (periods.flatMap Period.checks) ≤
          2 * limit := by
  have short : ∀ bucket ∈ world.store.live? key.text world.clock.timer,
      bucket.expiresAt ≤ world.clock.timer + seconds * 1_000_000_000 := by
    intro bucket counted
    rw [unused] at counted
    cases counted
  obtain ⟨joined, periods, told, split⟩ := outcomes_split timeout key limit positive run world
    world.clock.timer begun ordered elsewhere within short
  have none_joined : joined = [] := by
    apply List.eq_nil_iff_forall_not_mem.mpr
    intro other member
    obtain ⟨_, bucket, counted, _⟩ := split.inBucket other member
    rw [unused] at counted
    cases counted
  rw [none_joined, List.nil_append] at told
  refine ⟨periods, told, split.apart, ?_, ?_⟩
  · intro period member
    have keeps := split.keeps period member
    exact ⟨keeps, keeps.ranked.allowed_first, Period.allowed_le_limit keeps⟩
  · intro start
    exact Period.allowed_le_twice split.keeps split.apart

/-- Two requests a second: the third one in the first second is denied, and the next second begins with
its end. Another key does not matter. -/
theorem allowed_in_any_stretch_two_a_second :
    let world : World MemoryStore := World.start 1_700_000_000_000_000_000 .empty
    let moment (timer : Nanos) : Clock := .running (1_700_000_000_000_000_000 + timer) timer
    let run : List Step := [.check (moment 0), .other ⟨5_000_000, "rate_limit:other", 300⟩,
      .check (moment 10_000_000), .check (moment 999_999_999), .check (moment 1_000_000_000)]
    ∃ periods : List Period,
      outcomes standardStoreTimeout .global 2 1 run world =
          (periods.flatMap Period.checks).map Told.outcome ∧
        ∀ start, allowedFrom start 1_000_000_000 (periods.flatMap Period.checks) ≤ 4 := by
  intro world moment run
  have unused : world.store.live? Key.global.text world.clock.timer = none :=
    MemoryStore.live_empty
  have begun : ∀ step ∈ run, world.clock.timer ≤ step.time := fun step _ => Nat.zero_le step.time
  have ordered : run.Pairwise fun first second => first.time ≤ second.time := by
    simp [run, moment, Step.time, Clock.running]
  have elsewhere : ∀ call, .other call ∈ run → call.key ≠ Key.global.text := by
    simp [run, Key.global]
  have within : ∀ clock, .check clock ∈ run → WithinClocks 1 clock := by
    have each : WithinClocks 1 (moment 0) ∧ WithinClocks 1 (moment 10_000_000) ∧
        WithinClocks 1 (moment 999_999_999) ∧ WithinClocks 1 (moment 1_000_000_000) := by
      decide
    simpa [run] using each
  obtain ⟨periods, told, _, _, bounded⟩ := allowed_in_any_stretch standardStoreTimeout .global 2 1
    (by decide) world run unused begun ordered elsewhere within
  exact ⟨periods, told, bounded⟩

end Gatehouse.RateLimit
