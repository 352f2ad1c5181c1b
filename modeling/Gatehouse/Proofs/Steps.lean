import Gatehouse.Text.Numeral

/-! Computations that may refuse. One that is made of steps succeeds where each of its steps does, so
from a result the results of the steps can be had back. -/
namespace Gatehouse

variable {ε α β : Type}

theorem bind_ok_iff {first : Except ε α} {next : α → Except ε β} {b : β} :
    first >>= next = .ok b ↔ ∃ a, first = .ok a ∧ next a = .ok b := by
  cases first with
  | error refusal => simp [bind, Except.bind]
  | ok a => simp [bind, Except.bind]

theorem map_error_ok_iff {δ : Type} {first : Except ε α} {wording : ε → δ} {a : α} :
    first.mapError wording = .ok a ↔ first = .ok a := by
  constructor
  · intro succeeded
    cases first with
    | error refusal => cases succeeded
    | ok b =>
      cases succeeded
      rfl
  · rintro rfl
    rfl

/-- A refusal of the whole is one of the first step, or of what comes after it. -/
theorem bind_error_iff {first : Except ε α} {next : α → Except ε β} {refusal : ε} :
    first >>= next = .error refusal ↔
      first = .error refusal ∨ ∃ a, first = .ok a ∧ next a = .error refusal := by
  cases first with
  | error own => simp [bind, Except.bind]
  | ok a => simp [bind, Except.bind]

theorem map_error_error_iff {δ : Type} {first : Except ε α} {wording : ε → δ} {refusal : δ} :
    first.mapError wording = .error refusal ↔
      ∃ cause, first = .error cause ∧ wording cause = refusal := by
  constructor
  · intro failed
    cases first with
    | error own =>
      cases failed
      exact ⟨own, rfl, rfl⟩
    | ok b => cases failed
  · rintro ⟨cause, rfl, rfl⟩
    rfl

theorem to_option_iff {computed : Except ε α} {a : α} :
    computed.toOption = some a ↔ computed = .ok a := by
  cases computed with
  | error refusal => simp [Except.toOption]
  | ok b => simp [Except.toOption]

/-- What every result of a step has, all results of the steps over a list have. -/
theorem map_steps_all {step : α → Except ε β} {items : List α} {results : List β}
    {holds : β → Prop} (mapped : items.mapM step = .ok results)
    (each : ∀ item ∈ items, ∀ result, step item = .ok result → holds result) :
    ∀ result ∈ results, holds result := by
  induction items generalizing results with
  | nil =>
    cases mapped
    intro result member
    cases member
  | cons item rest ih =>
    simp only [List.mapM_cons, bind_ok_iff] at mapped
    obtain ⟨first, stepped, others, remaining, same⟩ := mapped
    cases same
    intro result member
    rcases List.mem_cons.mp member with here | there
    · subst here
      exact each item List.mem_cons_self result stepped
    · exact ih remaining (fun later inside => each later (List.mem_cons_of_mem item inside))
        result there

/-- Where the steps over a list succeed, each of them does, and its result is among the results. -/
theorem map_steps_ok {step : α → Except ε β} {items : List α} {results : List β}
    (mapped : items.mapM step = .ok results) :
    ∀ item ∈ items, ∃ result ∈ results, step item = .ok result := by
  induction items generalizing results with
  | nil =>
    intro item member
    cases member
  | cons item rest ih =>
    simp only [List.mapM_cons, bind_ok_iff] at mapped
    obtain ⟨first, stepped, others, remaining, same⟩ := mapped
    cases same
    refine List.forall_mem_cons.mpr ⟨⟨first, List.mem_cons_self, stepped⟩, fun later inside => ?_⟩
    obtain ⟨result, member, reached⟩ := ih remaining later inside
    exact ⟨result, List.mem_cons_of_mem first member, reached⟩

end Gatehouse
