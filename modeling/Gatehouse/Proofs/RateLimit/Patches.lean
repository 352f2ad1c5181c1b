import Gatehouse.RateLimit.Policy
import Gatehouse.Proofs.Json.TreeFields

/-!
The section of a scope as it is written down: an object whose members may be absent or null, or a list
of the three parts in order. It is read from a plain value; here it is told by its tree.
-/
namespace Gatehouse
open Json Json.Tree

namespace Json.Tree

/-- A part of a section: the member of that name, or the item at its place. -/
def part? (name : String) (place : Nat) : Tree → Option Tree
  | .list items => items[place]?
  | tree => tree.member? name

end Json.Tree

namespace RateLimit.PolicyPatch

variable {α : Type} {members : List (String × Value)} {seen : List String} {patch done : PolicyPatch}

/-- The names that a section may not repeat. -/
def isPart (name : String) : Bool := shape.fields.any (·.name == name)

/-- One part of a patch: the member that sets it, and how its value is read. -/
structure Part (name : String) (get : PolicyPatch → Option α)
    (read : Value → Except Json.Cause (Option α)) : Prop where
  known : isPart name = true
  own : ∀ patch value next, put patch name value = .ok next → read value = .ok (get next)
  others : ∀ patch key value next, key ≠ name → put patch key value = .ok next → get next = get patch

/-- All that one member can do. -/
theorem put_cases {key : String} {value : Value} {next : PolicyPatch}
    (step : put patch key value = .ok next) :
    (key = "enabled" ∧ ∃ on, flag value = .ok on ∧ next = { patch with enabled := on }) ∨
    (key = "requests" ∧ ∃ limit, amount "u32" 4294967295 value = .ok limit ∧
      next = { patch with requests := limit }) ∨
    (key = "window" ∧ ∃ seconds, amount "u64" 18446744073709551615 value = .ok seconds ∧
      next = { patch with window := seconds }) ∨
    (key ≠ "enabled" ∧ key ≠ "requests" ∧ key ≠ "window" ∧ next = patch) := by
  rw [put] at step
  split at step
  · obtain ⟨on, read, same⟩ := bind_ok_iff.mp step
    exact .inl ⟨‹_›, on, read, (Except.ok.inj same).symm⟩
  · split at step
    · obtain ⟨limit, read, same⟩ := bind_ok_iff.mp step
      exact .inr (.inl ⟨‹_›, limit, read, (Except.ok.inj same).symm⟩)
    · split at step
      · obtain ⟨seconds, read, same⟩ := bind_ok_iff.mp step
        exact .inr (.inr (.inl ⟨‹_›, seconds, read, (Except.ok.inj same).symm⟩))
      · exact .inr (.inr (.inr ⟨‹_›, ‹_›, ‹_›, (Except.ok.inj step).symm⟩))

theorem enabled_part : Part "enabled" enabled flag where
  known := by decide
  own patch value next step := by
    obtain ⟨-, on, read, rfl⟩ | ⟨wrong, -⟩ | ⟨wrong, -⟩ | ⟨wrong, -⟩ := put_cases step
    · exact read
    all_goals simp at wrong
  others patch key value next other step := by
    obtain ⟨same, -⟩ | ⟨-, _, -, rfl⟩ | ⟨-, _, -, rfl⟩ | ⟨-, -, -, rfl⟩ := put_cases step
    · exact absurd same other
    all_goals rfl

theorem requests_part : Part "requests" requests (amount "u32" 4294967295) where
  known := by decide
  own patch value next step := by
    obtain ⟨wrong, -⟩ | ⟨-, limit, read, rfl⟩ | ⟨wrong, -⟩ | ⟨-, wrong, -⟩ := put_cases step
    · simp at wrong
    · exact read
    all_goals simp at wrong
  others patch key value next other step := by
    obtain ⟨-, _, -, rfl⟩ | ⟨same, -⟩ | ⟨-, _, -, rfl⟩ | ⟨-, -, -, rfl⟩ := put_cases step
    · rfl
    · exact absurd same other
    all_goals rfl

theorem window_part : Part "window" window (amount "u64" 18446744073709551615) where
  known := by decide
  own patch value next step := by
    obtain ⟨wrong, -⟩ | ⟨wrong, -⟩ | ⟨-, seconds, read, rfl⟩ | ⟨-, -, wrong, -⟩ := put_cases step
    · simp at wrong
    · simp at wrong
    · exact read
    · simp at wrong
  others patch key value next other step := by
    obtain ⟨-, _, -, rfl⟩ | ⟨-, _, -, rfl⟩ | ⟨same, -⟩ | ⟨-, -, -, rfl⟩ := put_cases step
    · rfl
    · rfl
    · exact absurd same other
    · rfl

theorem put_all_cons {key : String} {value : Value} :
    putAll ((key, value) :: members) seen patch = .ok done ↔ ¬ (key ∈ seen ∧ isPart key = true) ∧
      ∃ next, put patch key value = .ok next ∧ putAll members (key :: seen) next = .ok done := by
  rw [putAll]
  split
  · rename_i again
    have repeated : key ∈ seen ∧ isPart key = true := by simpa [isPart] using again
    exact ⟨nofun, fun both => absurd repeated both.1⟩
  · rename_i fresh
    have fresh : ¬ (key ∈ seen ∧ isPart key = true) := by simpa [isPart] using fresh
    simp only [fresh, not_false_eq_true, true_and]
    exact bind_ok_iff

variable {name : String} {get : PolicyPatch → Option α} {read : Value → Except Json.Cause (Option α)}

/-- A part that has been set is not set again. -/
private theorem set_once (part : Part name get read) (set : name ∈ seen)
    (putting : putAll members seen patch = .ok done) : get done = get patch := by
  induction members generalizing seen patch with
  | nil =>
    cases putting
    rfl
  | cons member members ih =>
    obtain ⟨fresh, next, step, putting⟩ := put_all_cons.mp putting
    rw [ih (List.mem_cons_of_mem member.1 set) putting]
    refine part.others patch member.1 member.2 next ?_ step
    rintro rfl
    exact fresh ⟨set, part.known⟩

/-- A part is told by the one member of its name. -/
theorem put_all_tells (part : Part name get read) (unset : name ∉ seen)
    (putting : putAll members seen patch = .ok done) :
    match members.lookup name with
    | some value => read value = .ok (get done)
    | none => get done = get patch := by
  induction members generalizing seen patch with
  | nil =>
    cases putting
    rfl
  | cons member members ih =>
    obtain ⟨key, value⟩ := member
    obtain ⟨-, next, step, putting⟩ := put_all_cons.mp putting
    rw [lookup_front]
    by_cases same : key = name
    · subst same
      rw [if_pos rfl, set_once part List.mem_cons_self putting]
      exact part.own patch value next step
    · rw [if_neg same, ← part.others patch key value next same step]
      exact ih (by simpa [unset] using Ne.symm same) putting

/-! ## Sections by their trees -/

/-- A value that may be null, or be absent altogether. -/
def Gives (entry : Option Tree) (read : Tree → Option α) (value : Option α) : Prop :=
  match entry with
  | some tree => tree.orNull? read = some value
  | none => value = none

theorem Gives.map {β : Type} {entry : Option Tree} {meaning : Tree → Option α} {given : Option α}
    (f : α → β) (gives : Gives entry meaning given) :
    Gives entry (fun tree => (meaning tree).map f) (given.map f) := by
  cases entry with
  | none => exact congrArg (Option.map f) gives
  | some tree =>
    cases tree with
    | null =>
      cases gives
      rfl
    | _ =>
      obtain ⟨value, read, rfl⟩ := Option.map_eq_some_iff.mp gives
      simp [Gives, orNull?, read]

/-- The patch that a section stands for. -/
structure Patched (tree : Tree) (patch : PolicyPatch) : Prop where
  enabled : Gives (tree.part? "enabled" 0) bool? patch.enabled
  requests : Gives (tree.part? "requests" 1) nat? patch.requests
  window : Gives (tree.part? "window" 2) nat? patch.window

theorem flag_told {tree : Tree} {value : Value} {on : Option Bool} (told : tree.Told value)
    (read : flag value = .ok on) : tree.orNull? bool? = some on := by
  cases told with
  | null | bool =>
    cases read
    rfl
  | _ => cases read

theorem amount_told {tree : Tree} {value : Value} {expected : String} {limit : Nat} {n : Option Nat}
    (told : tree.Told value) (read : amount expected limit value = .ok n) :
    tree.orNull? nat? = some n := by
  cases told with
  | null =>
    cases read
    rfl
  | @number numeral number is =>
    cases number with
    | unsigned m =>
      rw [amount] at read
      split at read
      · cases read
        exact congrArg (Option.map some) (natural_of_unsigned is)
      · cases read
    | negative | floating => cases read
  | _ => cases read

private theorem object_part {members : List (List Piece × Tree)} {pairs : List (String × Value)}
    {depth place : Nat} {meaning : Tree → Option α}
    (each : members.mapM (pair? (value? depth)) = some pairs) (part : Part name get read)
    (told : ∀ {tree : Tree} {value given}, tree.Told value → read value = .ok given →
      tree.orNull? meaning = some given)
    (unset : get blank = none) (putting : putAll pairs [] blank = .ok patch) :
    Gives ((Tree.object members).part? name place) meaning (get patch) := by
  have looked := Decoder.lookup_pairs each name
  have tells := put_all_tells part (by simp) putting
  change Gives ((Tree.object members).member? name) meaning (get patch)
  cases present : (Tree.object members).member? name with
  | none =>
    rw [present] at looked
    rw [looked] at tells
    exact tells.trans unset
  | some tree =>
    rw [present] at looked
    obtain ⟨value, is, looked⟩ := looked
    rw [looked] at tells
    exact told (value_told is) tells

/-- A list stands for the three parts in order. -/
theorem three_values {items : List Tree} {values : List Value} {depth : Nat}
    (each : items.mapM (value? depth) = some values) (taken : ofValue (.list values) = .ok patch) :
    ∃ first second third on limit seconds, items = [first, second, third] ∧ first.Told on ∧
      second.Told limit ∧ third.Told seconds ∧
      putAll [("enabled", on), ("requests", limit), ("window", seconds)] [] blank = .ok patch := by
  obtain ⟨put, putting, measured⟩ := bind_ok_iff.mp taken
  have three : values.length = 3 := by
    split at measured
    · cases measured
    · split at measured
      · cases measured
      · have names : (shape.fields.map (·.name)).length = 3 := rfl
        omega
  have same : put = patch := by
    rw [if_neg, if_neg] at measured
    · exact Except.ok.inj measured
    · simp [three, shape]
    · simp [three, shape]
  obtain ⟨on, limit, seconds, rfl⟩ := List.length_eq_three.mp three
  rw [Decoder.values_iff] at each
  cases each with
  | cons first each =>
    cases each with
    | cons second each =>
      cases each with
      | cons third each =>
        cases each
        exact ⟨_, _, _, on, limit, seconds, rfl, value_told first, value_told second, value_told third,
          same ▸ putting⟩

/-- A section that is taken stands for its patch. -/
theorem patched {tree : Tree} {value : Value} {patch : PolicyPatch} (told : tree.Told value)
    (taken : ofValue value = .ok patch) : Patched tree patch := by
  cases told with
  | object each =>
    exact ⟨object_part each enabled_part flag_told rfl taken,
      object_part each requests_part amount_told rfl taken,
      object_part each window_part amount_told rfl taken⟩
  | list each =>
    obtain ⟨first, second, third, on, limit, seconds, rfl, toldOn, toldLimit, toldSeconds, putting⟩ :=
      three_values each taken
    have enabled : flag on = .ok patch.enabled := put_all_tells enabled_part (by simp) putting
    have requests := put_all_tells requests_part (by simp) putting
    have window := put_all_tells window_part (by simp) putting
    exact ⟨flag_told toldOn enabled, amount_told toldLimit requests, amount_told toldSeconds window⟩
  | _ => cases taken

end RateLimit.PolicyPatch
end Gatehouse
