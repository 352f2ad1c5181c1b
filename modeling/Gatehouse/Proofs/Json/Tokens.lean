import Gatehouse.Proofs.Json.Written
import Mathlib.Tactic.ByContra

/-!
The next byte, with and without blanks in front of it. Where the cursor counts lines and columns does
not matter to what is read; only what is left to read does.
-/
namespace Gatehouse.Json.Cursor

variable {c : Cursor} {b : UInt8} {rest : Bytes}

/-! ## The next byte -/

@[simp] theorem next_rest (here : c.rest = b :: rest) : c.next.rest = rest := by
  unfold next
  rw [here]
  dsimp only
  split <;> rfl

/-- Neither a space, a tab nor a line end. -/
def IsPlain (b : UInt8) : Prop := b ≠ 0x20 ∧ b ≠ 0x09 ∧ b ≠ 0x0A ∧ b ≠ 0x0D

instance (b : UInt8) : Decidable (IsPlain b) := by
  unfold IsPlain
  infer_instance

theorem peek_plain (here : c.rest = b :: rest) (plain : IsPlain b) : c.peek = (some b, c) := by
  obtain ⟨space, tab, line, carriage⟩ := plain
  have same : c.skipBlanks = c := by
    rw [skipBlanks, here, skipBlanks.go]
    simp [space, tab, line, carriage, ← here]
  rw [peek, same, here]
  rfl

/-- Blanks alone. -/
def IsGap (gap : Bytes) : Prop := ∀ b ∈ gap, ¬ IsPlain b

private theorem skip_blanks_gap {gap : Bytes} (blank : IsGap gap) (behind : Bytes)
    (stops : ∀ b ∈ behind.head?, IsPlain b) (line column : Nat) :
    ∃ line' column', skipBlanks.go (gap ++ behind) line column = ⟨behind, line', column'⟩ := by
  induction gap generalizing line column with
  | nil =>
    refine ⟨line, column, ?_⟩
    cases behind with
    | nil => rfl
    | cons b more =>
      obtain ⟨space, tab, newline, carriage⟩ := stops b rfl
      simp [skipBlanks.go, space, tab, newline, carriage]
  | cons b gap ih =>
    obtain ⟨first, others⟩ := List.forall_mem_cons.mp blank
    rw [List.cons_append, skipBlanks.go]
    by_cases newline : b = 0x0A
    · rw [if_pos newline]
      exact ih others (line + 1) 0
    · rw [if_neg newline, if_pos]
      · exact ih others line (column + 1)
      · by_contra other
        simp only [Bool.or_eq_true, decide_eq_true_eq, not_or] at other
        exact first ⟨other.1.1, other.1.2, newline, other.2⟩

/-- Blanks in front of a byte do not count. -/
theorem peek_gap {gap : Bytes} (blank : IsGap gap) (plain : IsPlain b)
    (here : c.rest = gap ++ b :: rest) :
    ∃ start : Cursor, start.rest = b :: rest ∧ c.peek = (some b, start) := by
  have stops : ∀ byte ∈ (b :: rest).head?, IsPlain byte := by
    intro byte member
    cases member
    exact plain
  obtain ⟨line, column, skipped⟩ := skip_blanks_gap blank (b :: rest) stops c.line c.column
  exact ⟨⟨b :: rest, line, column⟩, rfl, by rw [peek, skipBlanks, here, skipped]; rfl⟩

theorem peek_end (blank : IsGap c.rest) : ∃ behind, c.peek = (none, behind) := by
  obtain ⟨line, column, skipped⟩ := skip_blanks_gap blank [] (by simp) c.line c.column
  rw [List.append_nil] at skipped
  exact ⟨⟨[], line, column⟩, by rw [peek, skipBlanks, skipped]; rfl⟩

end Gatehouse.Json.Cursor
