import Gatehouse.Text.Blank
import Mathlib.Data.List.DropRight

/-! What trimming leaves of a text. It takes off at both ends as much as may go, so what is left starts
and ends with a character that has to stay, and there is only one way to cut a text like that. -/
namespace Gatehouse.Blank

variable {drop : Char → Bool} {text inner : List Char}

/-- Neither the first nor the last character of a text may go. -/
structure Trimmed (drop : Char → Bool) (text : List Char) : Prop where
  first : ∀ c ∈ text.head?, drop c = false
  last : ∀ c ∈ text.getLast?, drop c = false

/-- Nothing is left exactly if every character may go. -/
theorem trim_nil_iff : trimWhere drop text = [] ↔ ∀ c ∈ text, drop c = true := by
  have ends : trimWhere drop text = (text.dropWhile drop).rdropWhile drop := rfl
  rw [ends, List.rdropWhile_eq_nil_iff]
  constructor
  · intro rest c member
    rw [← List.takeWhile_append_dropWhile (p := drop) (l := text)] at member
    rcases List.mem_append.mp member with here | there
    · exact List.mem_takeWhile_imp here
    · exact rest c there
  · intro all c member
    exact all c (List.dropWhile_subset drop member)

private theorem drop_before {before rest : List Char} (blank : ∀ c ∈ before, drop c = true)
    (first : ∀ c ∈ rest.head?, drop c = false) : (before ++ rest).dropWhile drop = rest := by
  rw [List.dropWhile_append_of_pos blank]
  cases rest with
  | nil => rfl
  | cons c others =>
    rw [List.dropWhile_cons_of_neg]
    rw [first c rfl]
    exact Bool.false_ne_true

private theorem stops_at {rest : List Char} {c : Char} (first : c ∈ (rest.dropWhile drop).head?) :
    drop c = false := by
  obtain ⟨others, left⟩ := List.head?_eq_some_iff.mp first
  have some_left : rest.dropWhile drop ≠ [] := by
    rw [left]
    exact List.cons_ne_nil c others
  have kept := List.head_dropWhile_not drop some_left
  rw [List.head_eq_iff_head?_eq_some some_left |>.mpr first] at kept
  exact kept

/-- Both ends of what is left have to stay: trimming at the end keeps the first character. -/
private theorem trimmed_of_trim (left : trimWhere drop text = inner) : Trimmed drop inner := by
  constructor
  · intro c first
    obtain ⟨others, shape⟩ := List.head?_eq_some_iff.mp first
    obtain ⟨behind, whole⟩ := List.rdropWhile_prefix drop (text.dropWhile drop)
    have same : c :: others ++ behind = text.dropWhile drop := by
      rw [← shape, ← left]
      exact whole
    have front : c ∈ (text.dropWhile drop).head? := by
      rw [← same]
      rfl
    exact stops_at front
  · intro c last
    rw [← left] at last
    unfold trimWhere at last
    rw [List.getLast?_reverse] at last
    exact stops_at last

/-- What is left of a text is the part between characters that may go, if there is such a part that
starts and ends with characters that may not. -/
theorem trim_iff (remains : inner ≠ []) :
    trimWhere drop text = inner ↔
      ∃ before behind, text = before ++ (inner ++ behind) ∧ (∀ c ∈ before, drop c = true) ∧
        (∀ c ∈ behind, drop c = true) ∧ Trimmed drop inner := by
  have ends : trimWhere drop text = (text.dropWhile drop).rdropWhile drop := rfl
  constructor
  · intro left
    refine ⟨text.takeWhile drop, (text.dropWhile drop).rtakeWhile drop, ?_, ?_, ?_, ?_⟩
    · rw [← left, ends, List.rdropWhile_append_rtakeWhile, List.takeWhile_append_dropWhile]
    · intro c member
      exact List.mem_takeWhile_imp member
    · intro c member
      exact List.mem_rtakeWhile_imp member
    · exact trimmed_of_trim left
  · rintro ⟨before, behind, rfl, blank_before, blank_behind, trimmed⟩
    have first : ∀ c ∈ (inner ++ behind).head?, drop c = false := by
      rw [List.head?_append_of_ne_nil _ remains]
      exact trimmed.first
    have last : ∀ c ∈ inner.reverse.head?, drop c = false := by
      rw [List.head?_reverse]
      exact trimmed.last
    have blank_reversed : ∀ c ∈ behind.reverse, drop c = true := by
      intro c member
      exact blank_behind c (List.mem_reverse.mp member)
    rw [ends, drop_before blank_before first]
    unfold List.rdropWhile
    rw [List.reverse_append, drop_before blank_reversed last, List.reverse_reverse]

private theorem drop_congr {other : Char → Bool} (same : ∀ c ∈ text, drop c = other c) :
    text.dropWhile drop = text.dropWhile other := by
  induction text with
  | nil => rfl
  | cons c rest ih =>
    obtain ⟨first, others⟩ := List.forall_mem_cons.mp same
    rw [List.dropWhile_cons, List.dropWhile_cons, first, ih others]

/-- Only the characters of the text itself matter. -/
theorem trim_congr {other : Char → Bool} (same : ∀ c ∈ text, drop c = other c) :
    trimWhere drop text = trimWhere other text := by
  unfold trimWhere
  rw [drop_congr same, drop_congr]
  intro c member
  exact same c (List.dropWhile_subset other (List.mem_reverse.mp member))

end Gatehouse.Blank
