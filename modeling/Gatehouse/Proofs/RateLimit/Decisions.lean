import Gatehouse.RateLimit.Decision

/-! What a snapshot leads to. A count below one or a negative time left is refused. Every other
snapshot tells a decision, and the one thing that can keep it back is that its reset time has no
date. -/
namespace Gatehouse.RateLimit

/-- The instant some seconds after a wall clock reading has a date: the span can be held, and the
calendar reaches so far. -/
def Dated (wall seconds : Int) : Prop :=
  seconds ≤ longestSpan ∧ calendarStart ≤ wall + seconds * 1_000_000_000 ∧
    wall + seconds * 1_000_000_000 ≤ calendarEnd

instance (wall seconds : Int) : Decidable (Dated wall seconds) :=
  inferInstanceAs (Decidable (_ ∧ _))

/-- Less time ahead has a date too, as long as the present has one. -/
theorem Dated.sooner {wall seconds sooner : Int} (dated : Dated wall seconds)
    (present : calendarStart ≤ wall) (positive : 0 ≤ sooner) (less : sooner ≤ seconds) :
    Dated wall sooner := by
  obtain ⟨span, _, ended⟩ := dated
  refine ⟨Int.le_trans less span, ?_, ?_⟩
  · omega
  · omega

namespace Snapshot

/-- A snapshot that can be true: someone has been counted, and the window is not over for longer
than it lasted. -/
def WellFormed (snapshot : Snapshot) : Prop := 1 ≤ snapshot.count ∧ 0 ≤ snapshot.secondsLeft

instance (snapshot : Snapshot) : Decidable snapshot.WellFormed :=
  inferInstanceAs (Decidable (_ ∧ _))

/-- The decision that a snapshot tells. -/
def decision (snapshot : Snapshot) (limit : Nat) (wall : Int) : Decision :=
  ⟨snapshot.count ≤ limit, snapshot.count.toNat, limit - snapshot.count.toNat,
    wall + snapshot.secondsLeft * 1_000_000_000⟩

end Snapshot

namespace Decision

variable {snapshot : Snapshot} {limit : Nat} {wall : Int}

theorem add_seconds_dated {seconds : Int} (positive : 0 ≤ seconds) (dated : Dated wall seconds) :
    addSeconds wall seconds.toNat = .ok (wall + seconds * 1_000_000_000) := by
  obtain ⟨span, started, ended⟩ := dated
  have held : ¬ longestSpan < seconds.toNat := by omega
  have whole : ((seconds.toNat : Nat) : Int) = seconds := Int.toNat_of_nonneg positive
  simp only [addSeconds, held, if_false, whole, started, ended, and_self, if_true]

theorem add_seconds_undated {seconds : Int} (positive : 0 ≤ seconds)
    (undated : ¬ Dated wall seconds) : ∃ overflow, addSeconds wall seconds.toNat = .error overflow := by
  have whole : ((seconds.toNat : Nat) : Int) = seconds := Int.toNat_of_nonneg positive
  by_cases span : longestSpan < seconds.toNat
  · exact ⟨.span, if_pos span⟩
  · have outside : ¬ (calendarStart ≤ wall + seconds * 1_000_000_000 ∧
        wall + seconds * 1_000_000_000 ≤ calendarEnd) := by
      intro inside
      exact undated ⟨by omega, inside⟩
    refine ⟨.date, ?_⟩
    simp only [addSeconds, span, if_false, whole, outside]

/-- A snapshot that cannot be true is refused. -/
theorem of_snapshot_refused (limit : Nat) (wall : Int) (illFormed : ¬ snapshot.WellFormed) :
    ∃ detail, ofSnapshot snapshot limit wall = .error (.refused (.malformed detail)) := by
  by_cases counted : snapshot.count ≤ 0
  · exact ⟨_, if_pos counted⟩
  · have past : snapshot.secondsLeft < 0 := by
      apply Int.not_le.mp
      intro ahead
      exact illFormed ⟨Int.not_le.mp counted, ahead⟩
    exact ⟨_, (if_neg counted).trans (if_pos past)⟩

/-- A well formed one is decided where its reset time has a date. -/
theorem of_snapshot_decided (limit : Nat) (wellFormed : snapshot.WellFormed)
    (dated : Dated wall snapshot.secondsLeft) :
    ofSnapshot snapshot limit wall = .ok (snapshot.decision limit wall) := by
  obtain ⟨counted, ahead⟩ := wellFormed
  have allowed : (snapshot.count.toNat ≤ limit) = (snapshot.count ≤ limit) := by
    apply propext
    omega
  unfold ofSnapshot
  rw [if_neg (by omega), if_neg (by omega)]
  simp only [add_seconds_dated ahead dated, Snapshot.decision, allowed]

/-- And where it has none, the arithmetic overflows. -/
theorem of_snapshot_overflows (limit : Nat) (wellFormed : snapshot.WellFormed)
    (undated : ¬ Dated wall snapshot.secondsLeft) :
    ∃ overflow, ofSnapshot snapshot limit wall = .error (.overflowed overflow) := by
  obtain ⟨counted, ahead⟩ := wellFormed
  obtain ⟨overflow, fails⟩ := add_seconds_undated ahead undated
  refine ⟨overflow, ?_⟩
  unfold ofSnapshot
  rw [if_neg (by omega), if_neg (by omega)]
  simp only [fails]

/-- There is a decision for no other snapshot. -/
theorem of_snapshot_ok {decision : Decision} (decided : ofSnapshot snapshot limit wall = .ok decision) :
    snapshot.WellFormed ∧ Dated wall snapshot.secondsLeft ∧
      decision = snapshot.decision limit wall := by
  by_cases wellFormed : snapshot.WellFormed
  · by_cases dated : Dated wall snapshot.secondsLeft
    · rw [of_snapshot_decided limit wellFormed dated] at decided
      cases decided
      exact ⟨wellFormed, dated, rfl⟩
    · obtain ⟨overflow, fails⟩ := of_snapshot_overflows limit wellFormed dated
      rw [fails] at decided
      cases decided
  · obtain ⟨detail, fails⟩ := of_snapshot_refused limit wall wellFormed
    rw [fails] at decided
    cases decided

end Decision
end Gatehouse.RateLimit
