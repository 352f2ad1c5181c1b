import Gatehouse.RateLimit.Memory
import Mathlib.Algebra.Order.Round
import Mathlib.Data.Rat.Floor

/-!
Fixed windows, told by their history alone. The reference keeps every window in which a call was
ever counted and forgets none; what a call is told follows from the windows of its key. At any time
at most one window of a key is open, which is what a store with one bucket a key relies on.
-/
namespace Gatehouse.RateLimit

/-- One call of a counter: the timer reading, the key, and the lifetime of the window that the call
opens if none is open. -/
structure Call where
  now : Nanos
  key : String
  ttl : Nanos
  deriving DecidableEq, Repr

/-- A window of one key. -/
structure Window where
  key : String
  start : Nanos
  ttl : Nanos
  deriving DecidableEq, Repr

namespace Window

/-- Where a window is over. -/
def stop (window : Window) : Nanos := window.start + window.ttl

/-- A window is open strictly before its end. -/
def isOpen (window : Window) (now : Nanos) : Bool := now < window.stop

theorem isOpen_iff {window : Window} {now : Nanos} :
    window.isOpen now = true ↔ now < window.stop := decide_eq_true_iff

/-- Whether the timer can hold the end of a window. -/
def endsOnTimer (window : Window) : Bool := window.stop < MemoryStore.timerEnd

/-- The window that a call opens. -/
def opened (call : Call) : Window := ⟨call.key, call.now, call.ttl⟩

end Window

/-! ## The reference -/

/-- The windows in which calls were counted, one entry for each call, the latest first. -/
abbrev History := List Window

namespace History

/-- The window of a key that is still open. -/
def openWindow? (history : History) (key : String) (now : Nanos) : Option Window :=
  history.find? fun window => window.key == key && window.isOpen now

/-- The window a call is counted in: the open one of its key, or else one that starts with it. -/
def windowFor (history : History) (call : Call) : Window :=
  (history.openWindow? call.key call.now).getD (.opened call)

/-- What a call in a window is told: one more than the earlier calls in that window, and the rest of
the window in seconds, a half rounded up. -/
def snapshot (history : History) (window : Window) (now : Nanos) : Snapshot :=
  ⟨1 + history.count window, round (((window.stop : ℚ) - now) / 1_000_000_000)⟩

/-- The answers to a run of calls. A window for which `fits` does not hold is not opened, and the
call that needs it fails. -/
def answers (fits : Window → Bool) : History → List Call → List (Except Overflow Snapshot)
  | _, [] => []
  | history, call :: rest =>
    let window := history.windowFor call
    if (history.openWindow? call.key call.now).isSome || fits window then
      .ok (history.snapshot window call.now) :: answers fits (window :: history) rest
    else .error .timer :: answers fits history rest

/-- The windows of a run of calls where every window may be opened. -/
def after : History → List Call → History
  | history, [] => history
  | history, call :: rest => after (history.windowFor call :: history) rest

/-- Two windows of one key are never open at the same time. -/
def Separate (history : History) (now : Nanos) : Prop :=
  ∀ v ∈ history, ∀ w ∈ history, v.key = w.key → v.isOpen now → w.isOpen now → v = w

end History

/-! ## Windows of a history -/

namespace History

variable {history : History} {now later : Nanos} {key : String} {window : Window}

theorem open_window_found (found : history.openWindow? key now = some window) :
    window ∈ history ∧ window.key = key ∧ window.isOpen now := by
  have holds := List.find?_some found
  simp only [Bool.and_eq_true, beq_iff_eq] at holds
  exact ⟨List.mem_of_find?_eq_some found, holds.1, holds.2⟩

theorem no_open_window (none_open : history.openWindow? key now = none) (member : window ∈ history)
    (same : window.key = key) : window.isOpen now = false := by
  simpa [same] using List.find?_eq_none.mp none_open window member

theorem open_window_of_mem (separate : history.Separate now) (member : window ∈ history)
    (isOpen : window.isOpen now) : history.openWindow? window.key now = some window := by
  cases found : history.openWindow? window.key now with
  | none => simp [no_open_window found member rfl] at isOpen
  | some other =>
    obtain ⟨held, same, alsoOpen⟩ := open_window_found found
    exact congrArg some (separate other held window member same alsoOpen isOpen)

theorem is_open_earlier (earlier : now ≤ later) (isOpen : window.isOpen later) :
    window.isOpen now :=
  Window.isOpen_iff.mpr (Nat.lt_of_le_of_lt earlier (Window.isOpen_iff.mp isOpen))

theorem separate_empty : Separate [] now := fun _ member => absurd member List.not_mem_nil

theorem separate_later (separate : history.Separate now) (earlier : now ≤ later) :
    history.Separate later := fun v hv w hw same openV openW =>
  separate v hv w hw same (is_open_earlier earlier openV) (is_open_earlier earlier openW)

/-- As time passes the open window of a key closes, and no other window of the key opens. -/
theorem open_window_later (separate : history.Separate now) (earlier : now ≤ later) :
    history.openWindow? key later = (history.openWindow? key now).filter (·.isOpen later) := by
  cases atLater : history.openWindow? key later with
  | some window =>
    obtain ⟨member, rfl, isOpen⟩ := open_window_found atLater
    rw [open_window_of_mem separate member (is_open_earlier earlier isOpen)]
    rw [Option.filter_some, if_pos isOpen]
  | none =>
    cases atNow : history.openWindow? key now with
    | none => rfl
    | some window =>
      obtain ⟨member, same, -⟩ := open_window_found atNow
      rw [Option.filter_some, if_neg (by simp [no_open_window atLater member same])]

theorem opened_is_open {call : Call} (positive : 0 < call.ttl) :
    (Window.opened call).isOpen call.now :=
  Window.isOpen_iff.mpr (Nat.lt_add_of_pos_right positive)

/-- The window a call is counted in belongs to its key and is open. -/
theorem window_for_open (history : History) {call : Call} (positive : 0 < call.ttl) :
    (history.windowFor call).key = call.key ∧ (history.windowFor call).isOpen call.now := by
  unfold windowFor
  cases found : history.openWindow? call.key call.now with
  | none => exact ⟨rfl, opened_is_open positive⟩
  | some window => exact (open_window_found found).2

/-- Counting a call keeps windows separate: it joins the open window of its key, or no window of its
key is open. -/
theorem separate_counted {call : Call} (separate : history.Separate call.now) :
    History.Separate (history.windowFor call :: history) call.now := by
  have joins : ∀ w ∈ history, w.key = (history.windowFor call).key → w.isOpen call.now →
      w = history.windowFor call := by
    intro w member same isOpen
    unfold windowFor at same ⊢
    cases found : history.openWindow? call.key call.now with
    | none =>
      rw [found] at same
      simp [no_open_window found member same] at isOpen
    | some window =>
      rw [found] at same
      obtain ⟨held, -, alsoOpen⟩ := open_window_found found
      exact separate w member window held same isOpen alsoOpen
  intro v hv w hw same openV openW
  rcases List.mem_cons.mp hv with rfl | hv <;> rcases List.mem_cons.mp hw with rfl | hw
  · rfl
  · exact (joins w hw same.symm openW).symm
  · exact joins v hv same openV
  · exact separate v hv w hw same openV openW

/-- A window that opens now has no earlier call in it. -/
theorem count_opened {call : Call} (none_open : history.openWindow? call.key call.now = none)
    (positive : 0 < call.ttl) : history.count (.opened call) = 0 := by
  refine List.count_eq_zero.mpr fun member => ?_
  simpa [opened_is_open positive] using no_open_window none_open member rfl

/-- After a call its key has the window it was counted in. -/
theorem open_window_counted {call : Call} (positive : 0 < call.ttl) :
    openWindow? (history.windowFor call :: history) call.key call.now =
      some (history.windowFor call) := by
  obtain ⟨same, isOpen⟩ := window_for_open history positive
  simp [openWindow?, same, isOpen]

/-- A call does not touch the windows of other keys. -/
theorem open_window_other {call : Call} (positive : 0 < call.ttl) (other : key ≠ call.key) :
    openWindow? (history.windowFor call :: history) key call.now =
      history.openWindow? key call.now := by
  obtain ⟨same, -⟩ := window_for_open history positive
  simp [openWindow?, same, Ne.symm other]

theorem count_other {call : Call} (positive : 0 < call.ttl) (other : window.key ≠ call.key) :
    List.count window (history.windowFor call :: history) = history.count window := by
  obtain ⟨same, -⟩ := window_for_open history positive
  refine List.count_cons_of_ne fun equal => other ?_
  rw [← equal, same]

/-- Once a window is part of a history, it stays. -/
theorem mem_after (calls : List Call) (member : window ∈ history) : window ∈ history.after calls := by
  induction calls generalizing history with
  | nil => exact member
  | cons call rest ih => exact ih (List.mem_cons_of_mem _ member)

/-- Refusing windows changes the answers exactly where a window of the run is refused: up to the first
one both runs have the same windows, and there one fails and the other does not. -/
theorem answers_unbounded_iff {fits : Window → Bool} (calls : List Call)
    (known : ∀ window ∈ history, fits window) :
    history.answers fits calls = history.answers (fun _ => true) calls ↔
      ∀ window ∈ history.after calls, fits window := by
  induction calls generalizing history with
  | nil => simpa [answers, after] using known
  | cons call rest ih =>
    unfold answers after
    by_cases held : fits (history.windowFor call)
    · have knownNext : ∀ window ∈ history.windowFor call :: history, fits window :=
        List.forall_mem_cons.mpr ⟨held, known⟩
      simpa [held] using ih knownNext
    · have fresh : history.openWindow? call.key call.now = none := by
        cases found : history.openWindow? call.key call.now with
        | none => rfl
        | some window =>
          refine absurd (known window (open_window_found found).1) ?_
          simpa [windowFor, found] using held
      have met := mem_after rest (List.mem_cons_self (a := history.windowFor call) (l := history))
      refine iff_of_false (by simp [fresh, held]) fun all => held (all _ met)

end History

end Gatehouse.RateLimit
