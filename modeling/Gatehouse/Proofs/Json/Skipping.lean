import Gatehouse.Proofs.Json.Trees

/-!
Passing over values. The walk keeps the open brackets on a stack and has a bound on its steps; a value
takes at most three steps for each of its bytes, so the bound is never met and every value that the
grammar has is passed over, to exactly where it ends.
-/
namespace Gatehouse.Json.Cursor
open Utf8 Decoder Json.Tree

variable {c : Cursor} {rest : Bytes} {first : Bool}

attribute [local simp] skipLoop

/-- The walk gets from the front of every text of a tree to behind it, whatever brackets are open. -/
def Passes (tree : Tree) : Prop :=
  ∀ (stack : List Bool) (c : Cursor) rest, tree.Stands c.rest rest →
    ∃ steps, ∃ after : Cursor, after.rest = rest ∧ steps + 3 * rest.length ≤ 3 * c.rest.length ∧
      ∀ bound, skipLoop (bound + steps) .value stack c = skipLoop bound (.behind true) stack after

/-! ## Tokens -/

/-- A value that is passed over in one step from its first byte. -/
private theorem token_passes {tree : Tree} (one : ∀ b more (c start : Cursor) rest, tree.Leads b →
      c.peek = (some b, start) → start.rest = b :: (more ++ rest) → tree.Writes (b :: more) →
      Ended rest → ∃ after : Cursor, after.rest = rest ∧ ∀ stack bound,
        skipLoop (bound + 1) .value stack c = skipLoop bound (.behind true) stack after) :
    Passes tree := by
  intro stack c rest stands
  obtain ⟨b, more, start, leads, peeked, here, writes, shorter⟩ := stands.peeked
  obtain ⟨after, left, pass⟩ := one b more c start rest leads peeked here writes stands.ended
  refine ⟨1, after, left, ?_, pass stack⟩
  simp only [here, List.length_cons, List.length_append] at shorter
  omega

private theorem null_passes : Passes .null :=
  token_passes fun b more c start rest leads peeked here writes _ => by
    cases writes
    obtain ⟨after, left, read⟩ := literal_reads (next_rest here)
    refine ⟨after, left, fun stack bound => ?_⟩
    simp [peeked, read, bind, Except.bind]

private theorem bool_passes (value : Bool) : Passes (.bool value) :=
  token_passes fun b more c start rest leads peeked here writes _ => by
    cases writes with
    | yes | no =>
      obtain ⟨after, left, read⟩ := literal_reads (next_rest here)
      refine ⟨after, left, fun stack bound => ?_⟩
      simp [peeked, read, bind, Except.bind]

private theorem text_passes (pieces : List Piece) : Passes (.text pieces) :=
  token_passes fun b more c start rest leads peeked here writes _ => by
    cases writes with
    | text formed =>
      rw [List.append_assoc] at here
      have room : pieces.length < start.rest.length + 1 := by
        have := pieces_length pieces
        simp only [here, List.length_append, List.length_cons]
        omega
      obtain ⟨after, left, skipped⟩ := skip_string_formed formed (next_rest here) room
      refine ⟨after, left, fun stack bound => ?_⟩
      simp [peeked, skipped, bind, Except.bind]

private theorem numeral_lead {numeral : Bytes} (isNumeral : IsNumeral numeral) :
    ∃ b more, numeral = b :: more ∧ isDigit b = true := by
  obtain ⟨whole, fraction, power, rfl, ⟨areDigits, b, more, rfl, -⟩, -⟩ := isNumeral
  exact ⟨b, _, rfl, areDigits b List.mem_cons_self⟩

private theorem number_passes (numeral : Bytes) : Passes (.number numeral) :=
  token_passes fun b more c start rest leads peeked here writes ended => by
    cases writes with
    | number number =>
      rcases number with isNumeral | ⟨numeral, same, isNumeral⟩
      · obtain ⟨after, left, skipped⟩ := skip_number_passes isNumeral ended here
        obtain ⟨_, _, same, isDigit⟩ := numeral_lead isNumeral
        cases same
        refine ⟨after, left, fun stack bound => ?_⟩
        have noDigit : ∀ letter ∈ [0x6E, 0x74, 0x66, 0x2D, 0x22, 0x5B, 0x7B],
            Cursor.isDigit letter = false := by decide +kernel
        have other : b ∉ [0x6E, 0x74, 0x66, 0x2D, 0x22, 0x5B, 0x7B] := fun member =>
          Bool.false_ne_true ((noDigit b member).symm.trans isDigit)
        simp only [List.mem_cons, List.not_mem_nil, or_false, not_or] at other
        simp [peeked, isDigit, other, skipped, bind, Except.bind]
      · cases same
        obtain ⟨after, left, skipped⟩ := skip_number_passes isNumeral ended (next_rest here)
        refine ⟨after, left, fun stack bound => ?_⟩
        simp [peeked, skipped, bind, Except.bind]

/-! ## Lists and objects -/

/-- A part of a list or an object that follows the opening bracket, or a comma, is gone to. -/
private theorem part_entered (object : Bool) {part lead more : Bytes} {b : UInt8}
    (separates : Separates first c.rest part) (shape : part = lead ++ b :: more) (blank : IsGap lead)
    (plain : IsPlain b) (notClosing : b ≠ if object then 0x7D else 0x5D) (stack : List Bool) :
    ∃ start : Cursor, (start.rest = b :: more ∨ start.rest = part) ∧
      3 * start.rest.length + 2 ≤ 3 * c.rest.length + (if first then 2 else 0) ∧
      ∀ bound, skipLoop (bound + 1) (.behind !first) (object :: stack) c =
        skipLoop bound .item (object :: stack) start := by
  cases first with
  | true =>
    have here : c.rest = lead ++ b :: more := shape ▸ separates
    obtain ⟨start, atPart, peeked⟩ := peek_gap blank plain here
    have shorter : start.rest.length ≤ c.rest.length := by
      rw [atPart, here, List.length_append]
      exact Nat.le_add_left _ _
    refine ⟨start, .inl atPart, by rw [if_pos rfl]; omega, fun bound => ?_⟩
    simp [peeked, notClosing]
  | false =>
    obtain ⟨gap, here, blank⟩ := separates
    obtain ⟨comma, atComma, peeked⟩ := peek_gap blank (by decide) here
    have behind := next_rest atComma
    refine ⟨comma.next, .inr behind, ?_, fun bound => ?_⟩
    · simp [behind, here]
      omega
    · simp [peeked]

/-- From behind an opening bracket, or behind an item, the walk gets behind the closing one. -/
private theorem items_pass {items : List Tree} (each : ∀ item ∈ items, Passes item)
    (stack : List Bool) (stands : ItemsStand first items c.rest rest) :
    ∃ steps, ∃ after : Cursor, after.rest = rest ∧
      steps + 3 * rest.length ≤ 3 * c.rest.length + (if first then 2 else 0) ∧
      ∀ bound, skipLoop (bound + steps) (.behind !first) (false :: stack) c =
        skipLoop bound (.behind true) stack after := by
  induction items generalizing first c with
  | nil =>
    obtain ⟨gap, here, blank⟩ := items_end stands
    obtain ⟨start, atEnd, peeked⟩ := peek_gap blank (by decide) here
    refine ⟨1, start.next, next_rest atEnd, ?_, fun bound => ?_⟩
    · simp only [here, List.length_append, List.length_cons]
      omega
    · simp [peeked]
  | cons item items ih =>
    obtain ⟨passes, others⟩ := List.forall_mem_cons.mp each
    obtain ⟨part, left, separates, standsItem, standsOthers⟩ := items_next stands
    obtain ⟨lead, b, more, shape, blank, leads, writes⟩ := standsItem.shape
    obtain ⟨start, atItem, few, enter⟩ := part_entered false separates shape blank
      (leads_opens leads).1 (leads_opens leads).2 stack
    have standsHere : item.Stands start.rest left := by
      rcases atItem with here | here
      · exact writes.stands here standsItem.ended
      · exact here ▸ standsItem
    obtain ⟨steps, behind, atLeft, fewItem, pass⟩ := passes (false :: stack) start left standsHere
    obtain ⟨further, after, ended, fewOthers, close⟩ := ih others (atLeft ▸ standsOthers)
    refine ⟨further + steps + 1 + 1, after, ended, ?_, fun bound => ?_⟩
    · simp [atLeft] at fewOthers
      omega
    · rw [← Nat.add_assoc, enter, ← Nat.add_assoc, skipLoop, ← Nat.add_assoc]
      simp only [List.head?_cons, Option.some.injEq, Bool.false_eq_true, if_false, pass]
      exact close bound

/-- The name of a member and the colon behind it are passed over in one step. -/
private theorem name_passed {name : List Piece} {lead behindGap more : Bytes} (stack : List Bool)
    (here : c.rest = lead ++ 0x22 :: (piecesBytes name ++ 0x22 :: (behindGap ++ 0x3A :: more)))
    (blank : IsGap lead) (formed : ∀ piece ∈ name, piece.IsFormed) (blankBehind : IsGap behindGap) :
    ∃ value : Cursor, value.rest = more ∧ ∀ bound,
      skipLoop (bound + 1) .item (true :: stack) c = skipLoop bound .value (true :: stack) value := by
  obtain ⟨start, atName, peeked⟩ := peek_gap blank (by decide) here
  have room : name.length < start.rest.length + 1 := by
    have := pieces_length name
    simp only [atName, List.length_append, List.length_cons]
    omega
  obtain ⟨behind, left, skipped⟩ := skip_string_formed formed (next_rest atName) room
  obtain ⟨colon, atColon, peekedColon⟩ := peek_gap blankBehind (by decide) left
  refine ⟨colon.next, next_rest atColon, fun bound => ?_⟩
  rw [skipLoop]
  simp only [List.head?_cons, if_true, peeked, skipped, peekedColon]

/-- From behind an opening brace, or behind a member, the walk gets behind the closing one. -/
private theorem members_pass {members : List (List Piece × Tree)}
    (each : ∀ member ∈ members, Passes member.2) (stack : List Bool)
    (stands : MembersStand first members c.rest rest) :
    ∃ steps, ∃ after : Cursor, after.rest = rest ∧
      steps + 3 * rest.length ≤ 3 * c.rest.length + (if first then 2 else 0) ∧
      ∀ bound, skipLoop (bound + steps) (.behind !first) (true :: stack) c =
        skipLoop bound (.behind true) stack after := by
  induction members generalizing first c with
  | nil =>
    obtain ⟨gap, here, blank⟩ := members_end stands
    obtain ⟨start, atEnd, peeked⟩ := peek_gap blank (by decide) here
    refine ⟨1, start.next, next_rest atEnd, ?_, fun bound => ?_⟩
    · simp only [here, List.length_append, List.length_cons]
      omega
    · simp [peeked]
  | cons member members ih =>
    obtain ⟨passes, others⟩ := List.forall_mem_cons.mp each
    obtain ⟨part, lead, behindName, behindGap, behindColon, left, separates, shape, blank, formed, rfl,
      blankBehind, standsValue, standsOthers⟩ := members_next stands
    obtain ⟨start, atMember, few, enter⟩ :=
      part_entered true separates shape blank (by decide) (by decide) stack
    have standsName : ∃ gap, IsGap gap ∧ start.rest = gap ++ 0x22 ::
        (piecesBytes member.1 ++ 0x22 :: (behindGap ++ 0x3A :: behindColon)) := by
      rcases atMember with here | here
      · exact ⟨[], by simp [IsGap], here⟩
      · exact ⟨lead, blank, here.trans shape⟩
    obtain ⟨gap, blankName, here⟩ := standsName
    obtain ⟨value, atValue, name⟩ := name_passed stack here blankName formed blankBehind
    obtain ⟨steps, behind, atLeft, fewValue, pass⟩ :=
      passes (true :: stack) value left (atValue ▸ standsValue)
    obtain ⟨further, after, ended, fewOthers, close⟩ := ih others (atLeft ▸ standsOthers)
    refine ⟨further + steps + 1 + 1, after, ended, ?_, fun bound => ?_⟩
    · simp [atLeft] at fewOthers
      simp only [here, atValue, List.length_append, List.length_cons] at few fewValue
      omega
    · rw [← Nat.add_assoc, enter, ← Nat.add_assoc, name, ← Nat.add_assoc, pass]
      exact close bound

/-! ## Values -/

/-- Every value of the grammar is passed over. -/
theorem tree_passes (tree : Tree) : Passes tree := by
  induction tree using Tree.by_parts with
  | null => exact null_passes
  | bool value => exact bool_passes value
  | number numeral => exact number_passes numeral
  | text pieces => exact text_passes pieces
  | list items each =>
    intro stack c rest stands
    obtain ⟨b, more, start, rfl, peeked, here, writes, shorter⟩ := stands.peeked
    have behind := next_rest here
    obtain ⟨steps, after, left, few, pass⟩ := items_pass each stack (behind ▸ writes.items rest)
    refine ⟨steps + 1, after, left, ?_, fun bound => ?_⟩
    · simp [behind, here] at few shorter
      omega
    · rw [← pass bound, ← Nat.add_assoc, skipLoop, peeked]
      rfl
  | object members each =>
    intro stack c rest stands
    obtain ⟨b, more, start, rfl, peeked, here, writes, shorter⟩ := stands.peeked
    have behind := next_rest here
    obtain ⟨steps, after, left, few, pass⟩ := members_pass each stack (behind ▸ writes.members rest)
    refine ⟨steps + 1, after, left, ?_, fun bound => ?_⟩
    · simp [behind, here] at few shorter
      omega
    · rw [← pass bound, ← Nat.add_assoc, skipLoop, peeked]
      rfl

/-- Passing over a value reaches what stands behind it. -/
theorem skip_value_passes {tree : Tree} (stands : tree.Stands c.rest rest) :
    ∃ after : Cursor, after.rest = rest ∧ c.skipValue = .ok after := by
  obtain ⟨steps, after, left, few, pass⟩ := tree_passes tree [] c rest stands
  refine ⟨after, left, ?_⟩
  obtain ⟨spare, room⟩ : ∃ spare, 3 * c.rest.length + 3 = spare + 1 + steps :=
    ⟨3 * c.rest.length + 2 - steps, by omega⟩
  rw [skipValue, room, pass]
  rfl

theorem skip_value_written {text : String} (written : IsWritten text) (ended : Ended rest)
    (here : c.rest = encode text ++ rest) :
    ∃ after : Cursor, after.rest = rest ∧ c.skipValue = .ok after := by
  obtain ⟨tree, writes⟩ := written_tree written
  exact skip_value_passes (writes.stands here ended)

end Gatehouse.Json.Cursor
