import Gatehouse.Proofs.Json.Agreement
import Gatehouse.Proofs.Json.Skipping

/-!
What decoders make of a value is a matter of its tree: the same wherever its text stands, however it
is spaced, and said here without a reader. A decoder that makes nothing of a tree refuses every text
of it.
-/
namespace Gatehouse.Json.Decoder
open Cursor Json.Tree

variable {α β σ τ : Type} {c : Cursor} {rest : Bytes}

/-- The decoder takes every text of the tree as that value, or refuses every one. -/
def Makes (decoder : Decoder α) (depth : Nat) (tree : Tree) (value : Option α) : Prop :=
  ∀ (c : Cursor) rest, tree.Stands c.rest rest → Answers value rest (decoder depth c)

theorem answers_none {outcome : Except Stop (α × Cursor)} (fails : ∀ a, outcome ≠ .ok a) :
    Answers none rest outcome := by
  cases outcome with
  | ok a => exact absurd rfl (fails a)
  | error stop => exact ⟨stop, rfl⟩

/-- What was read is the answer. -/
theorem answers_read {value : Option α} {a : α} {after : Cursor}
    {outcome : Except Stop (α × Cursor)} (answers : Answers value rest outcome)
    (read : outcome = .ok (a, after)) : value = some a := by
  cases value with
  | none =>
    obtain ⟨stop, refused⟩ := answers
    cases refused.symm.trans read
  | some other =>
    obtain ⟨_, _, also⟩ := answers
    cases also.symm.trans read
    rfl

/-- At one place there is one answer. -/
theorem answers_unique {first second : Option α} {outcome : Except Stop (α × Cursor)}
    (one : Answers first rest outcome) (other : Answers second rest outcome) : first = second := by
  cases second with
  | some a =>
    obtain ⟨_, _, read⟩ := other
    exact answers_read one read
  | none =>
    cases first with
    | none => rfl
    | some a =>
      obtain ⟨_, _, read⟩ := one
      exact (answers_read other read).symm

theorem answers_map {value : Option α} {outcome : Except Stop (α × Cursor)} (f : α → β)
    (answers : Answers value rest outcome) :
    Answers (value.map f) rest (do
      let (a, c) ← outcome
      return (f a, c)) := by
  cases value with
  | none =>
    obtain ⟨stop, rfl⟩ := answers
    exact ⟨stop, rfl⟩
  | some a =>
    obtain ⟨after, left, rfl⟩ := answers
    exact ⟨after, left, rfl⟩

/-- A part that succeeds goes on, and one that refuses is a refusal of the whole. -/
theorem answers_bind {value : Option α} {next : α → Option β} {middle : Bytes}
    {outcome : Except Stop (α × Cursor)} {goOn : α × Cursor → Except Stop (β × Cursor)}
    (first : Answers value middle outcome)
    (others : ∀ a (after : Cursor), after.rest = middle → Answers (next a) rest (goOn (a, after))) :
    Answers (value.bind next) rest (outcome >>= goOn) := by
  cases value with
  | none =>
    obtain ⟨stop, rfl⟩ := first
    exact ⟨stop, rfl⟩
  | some a =>
    obtain ⟨after, left, rfl⟩ := first
    exact others a after left

/-! What stands between brackets is read up to the one that closes them, with any space in front of it. -/

theorem refused_before (close : UInt8) (stop : Stop) :
    ∃ gap, IsGap gap ∧ Answers (none : Option α) (gap ++ close :: rest) (.error stop) :=
  ⟨[], by simp [IsGap], stop, rfl⟩

/-- A part that succeeds goes on up to the closing bracket, and one that refuses needs none. -/
theorem answers_bind_before {close : UInt8} {value : Option α} {next : α → Option β} {middle : Bytes}
    {outcome : Except Stop (α × Cursor)} {goOn : α × Cursor → Except Stop (β × Cursor)}
    (first : Answers value middle outcome)
    (others : ∀ a (after : Cursor), after.rest = middle →
      ∃ gap, IsGap gap ∧ Answers (next a) (gap ++ close :: rest) (goOn (a, after))) :
    ∃ gap, IsGap gap ∧ Answers (value.bind next) (gap ++ close :: rest) (outcome >>= goOn) := by
  cases value with
  | none =>
    obtain ⟨stop, rfl⟩ := first
    exact refused_before close stop
  | some a =>
    obtain ⟨after, left, rfl⟩ := first
    exact others a after left

theorem peeked_first {inner : UInt8 → Cursor → Except Stop α} {b : UInt8} {start : Cursor}
    (peeked : c.peek = (some b, start)) : withFirst inner c = inner b start := by
  rw [withFirst, peeked]

/-- A whole document gives what its tree does. -/
theorem document_makes {decoder : Decoder α} {tree : Tree} {value : Option α} {document : Bytes}
    (makes : Makes decoder depthLimit tree value) (writes : tree.WritesDocument document) :
    (run decoder document).toOption = value := by
  obtain ⟨before, text, behind, rfl, blankBefore, blankBehind, written⟩ := writes
  have ended : Ended behind := List.append_nil behind ▸ ended_gap blankBehind ended_nil
  have answer := makes (start _) behind ⟨before, text, rfl, blankBefore, written, ended⟩
  cases value with
  | none =>
    obtain ⟨stop, refused⟩ := answer
    simp only [run, refused, bind, Except.bind]
    cases stop <;> rfl
  | some a =>
    obtain ⟨after, left, read⟩ := answer
    obtain ⟨atEnd, peeked⟩ := peek_end (left.symm ▸ blankBehind)
    simp only [run, read, bind, Except.bind, peeked]
    rfl

/-! ## Tokens -/

theorem mismatched {expected : String} : Answers (none : Option α) rest
    (mismatch expected c) := answers_none fun _ => mismatch_fails

/-- The letters of a literal stand for one value. -/
theorem literal_answers {letters : Bytes} (a : α) (here : c.rest = letters ++ rest) :
    Answers (some a) rest (do return (a, ← c.literal letters)) := by
  obtain ⟨after, left, read⟩ := literal_reads here
  refine ⟨after, left, ?_⟩
  rw [read]
  rfl

/-- The first byte of a value tells its kind. -/
structure Kind (tree : Tree) (b : UInt8) : Prop where
  null : b = 0x6E → tree = .null
  yes : b = 0x74 → tree = .bool true
  no : b = 0x66 → tree = .bool false
  quote : b = 0x22 → ∃ pieces, tree = .text pieces
  bracket : b = 0x5B → ∃ items, tree = .list items
  brace : b = 0x7B → ∃ members, tree = .object members
  numeric : (b = 0x2D || isDigit b) = true → ∃ numeral, tree = .number numeral

theorem kind_of_lead {tree : Tree} {b : UInt8} (leads : tree.Leads b) : Kind tree b := by
  cases tree with
  | number numeral =>
    have notNumeric : ∀ other ∈ [0x6E, 0x74, 0x66, 0x22, 0x5B, 0x7B],
        (other = 0x2D || isDigit other) = false := by decide +kernel
    have other : b ∉ [0x6E, 0x74, 0x66, 0x22, 0x5B, 0x7B] := fun member =>
      Bool.false_ne_true ((notNumeric b member).symm.trans leads)
    simp only [List.mem_cons, List.not_mem_nil, or_false, not_or] at other
    obtain ⟨notNull, notYes, notNo, notQuote, notBracket, notBrace⟩ := other
    exact ⟨fun same => absurd same notNull, fun same => absurd same notYes,
      fun same => absurd same notNo, fun same => absurd same notQuote,
      fun same => absurd same notBracket, fun same => absurd same notBrace, fun _ => ⟨numeral, rfl⟩⟩
  | bool value =>
    obtain rfl : b = _ := leads
    cases value <;> constructor <;> simp [isDigit]
  | null | text | list | object =>
    obtain rfl : b = _ := leads
    constructor <;> simp [isDigit]

theorem text_makes (expected : String) (depth : Nat) (tree : Tree) :
    Makes (textAs expected) depth tree tree.text? := by
  intro c rest stands
  obtain ⟨b, more, start, leads, peeked, here, writes, -⟩ := stands.peeked
  rw [textAs, peeked_first peeked]
  cases tree with
  | text pieces =>
    cases writes with
    | text formed =>
      rw [List.append_assoc] at here
      exact string_answers formed (next_rest here)
  | _ =>
    rw [if_neg fun quote => by simpa using (kind_of_lead leads).quote quote]
    exact mismatched

theorem bool_makes (depth : Nat) (tree : Tree) : Makes bool depth tree tree.bool? := by
  intro c rest stands
  obtain ⟨b, more, start, leads, peeked, here, writes, -⟩ := stands.peeked
  rw [bool, peeked_first peeked]
  cases tree with
  | bool value =>
    cases writes with
    | yes | no =>
      exact literal_answers _ (next_rest here)
  | _ =>
    rw [if_neg fun yes => by simpa using (kind_of_lead leads).yes yes,
      if_neg fun no => by simpa using (kind_of_lead leads).no no]
    exact mismatched

theorem unit_makes (depth : Nat) (tree : Tree) : Makes unit depth tree tree.null? := by
  intro c rest stands
  obtain ⟨b, more, start, leads, peeked, here, writes, -⟩ := stands.peeked
  rw [unit, peeked_first peeked]
  cases tree with
  | null =>
    cases writes
    exact literal_answers _ (next_rest here)
  | _ =>
    rw [if_neg fun null => by simpa using (kind_of_lead leads).null null]
    exact mismatched

/-- A number up to a limit is read from digits alone. -/
theorem nat_makes (expected : String) {limit : Nat} (fits : limit < 2 ^ 64) (depth : Nat)
    (tree : Tree) :
    Makes (natUpTo expected limit) depth tree (tree.nat?.filter fun n => decide (n ≤ limit)) := by
  intro c rest stands
  obtain ⟨b, more, start, leads, peeked, here, writes, -⟩ := stands.peeked
  rw [natUpTo, integer, peeked_first peeked]
  cases tree with
  | number numeral =>
    cases writes with
    | number number =>
      obtain ⟨value, answers, natural⟩ := signed_number_answers number
      have read := answers start rest here stands.ended
      have numeric : (b = 0x2D || isDigit b) = true := leads
      rw [if_pos numeric]
      rcases natural with ⟨n, natural, -, rfl⟩ | ⟨large, notUnsigned, negative⟩
      · obtain ⟨after, left, read⟩ := read
        simp only [Tree.nat?, natural, read, bind, Except.bind]
        by_cases below : n ≤ limit
        · have same : (some n).filter (fun n => decide (n ≤ limit)) = some n := by simp [below]
          simp only [same, Int.natCast_nonneg, Int.ofNat_le, below, and_self, if_true]
          exact ⟨after, left, rfl⟩
        · have beyond : (some n).filter (fun n => decide (n ≤ limit)) = none := by
            simpa using Nat.lt_of_not_le below
          simp only [beyond, Int.natCast_nonneg, Int.ofNat_le, below, and_false, if_false]
          exact ⟨_, rfl⟩
      · have beyond : (natural? (b :: more)).filter (fun n => decide (n ≤ limit)) = none := by
          simp only [Option.filter_eq_none_iff, decide_eq_true_eq]
          exact fun n same below => absurd (large n same) (by omega)
        rw [Tree.nat?, beyond]
        cases value with
        | none =>
          obtain ⟨stop, refused⟩ := read
          exact ⟨stop, by rw [refused]; rfl⟩
        | some n =>
          obtain ⟨after, left, read⟩ := read
          simp only [read, bind, Except.bind]
          cases n with
          | unsigned m => exact absurd rfl (notUnsigned m)
          | negative m =>
            have below : ¬ (0 ≤ m ∧ m ≤ limit) := fun both => absurd (negative m rfl) (by omega)
            simp only [below, if_false]
            exact ⟨_, rfl⟩
          | floating x => exact ⟨_, rfl⟩
  | _ =>
    rw [if_neg fun numeric => by simpa using (kind_of_lead leads).numeric numeric]
    exact mismatched

/-! ## Values that may be null, and lists -/

theorem optional_makes {inner : Decoder α} {depth : Nat} {read : Tree → Option α} (tree : Tree)
    (makes : Makes inner depth tree (read tree)) :
    Makes (optional inner) depth tree (tree.orNull? read) := by
  intro c rest stands
  obtain ⟨b, more, start, leads, peeked, here, writes, -⟩ := stands.peeked
  cases tree with
  | null =>
    cases writes
    rw [optional, peeked]
    exact literal_answers none (next_rest here)
  | _ =>
    have notNull : b ≠ 0x6E := fun null => by simpa using (kind_of_lead leads).null null
    have answer := makes start rest (writes.stands here stands.ended)
    rw [optional, peeked]
    split
    · rename_i same
      cases same
      exact absurd rfl notNull
    · rename_i same
      cases same
      exact answers_map some answer

/-- A refusal inside a part is one of the whole. -/
theorem inside_answers {value : Option α} {outcome : Except Stop (α × Cursor)}
    (segment : Segment) (answers : Answers value rest outcome) :
    Answers value rest (inside segment outcome) := by
  cases value with
  | none =>
    obtain ⟨stop, rfl⟩ := answers
    cases stop <;> exact ⟨_, rfl⟩
  | some a =>
    obtain ⟨after, left, rfl⟩ := answers
    exact ⟨after, left, rfl⟩

/-- Where no bracket may be opened, none is. -/
theorem enter_shallow {inner : Decoder α} {depth : Nat} (shallow : depth < 2) :
    ∃ stop, enter inner depth c = .error stop := by
  match depth, shallow with
  | 0, _ => exact ⟨_, rfl⟩
  | 1, _ => exact ⟨_, rfl⟩

/-- The closing bracket stands behind the contents. -/
theorem closing_answers {close : Cursor → Option Cause × Cursor} {value : Option α}
    {outcome : Except Stop (α × Cursor)} {gap : Bytes} {b : UInt8}
    (closes : ∀ c : Cursor, c.rest = gap ++ b :: rest →
      ∃ after : Cursor, after.rest = rest ∧ close c = (none, after))
    (answers : Answers value (gap ++ b :: rest) outcome) :
    Answers value rest (closing close outcome) := by
  cases value with
  | none =>
    obtain ⟨stop, rfl⟩ := answers
    cases stop <;> exact ⟨_, rfl⟩
  | some a =>
    obtain ⟨inner, atEnd, rfl⟩ := answers
    obtain ⟨after, left, closed⟩ := closes inner atEnd
    refine ⟨after, left, ?_⟩
    rw [closing, closed]

theorem closing_refused {close : Cursor → Option Cause × Cursor} (stop : Stop) :
    Answers (none : Option α) rest (closing close (.error stop)) := by
  cases stop <;> exact ⟨_, rfl⟩

theorem list_closes {gap : Bytes} (blank : IsGap gap) (c : Cursor)
    (here : c.rest = gap ++ 0x5D :: rest) :
    ∃ after : Cursor, after.rest = rest ∧ closeList c = (none, after) := by
  obtain ⟨start, atEnd, peeked⟩ := peek_gap blank (by decide) here
  exact ⟨start.next, next_rest atEnd, by rw [closeList, peeked]; rfl⟩

theorem object_closes {gap : Bytes} (blank : IsGap gap) (c : Cursor)
    (here : c.rest = gap ++ 0x7D :: rest) :
    ∃ after : Cursor, after.rest = rest ∧ closeObject c = (none, after) := by
  obtain ⟨start, atEnd, peeked⟩ := peek_gap blank (by decide) here
  exact ⟨start.next, next_rest atEnd, by rw [closeObject, peeked]; rfl⟩

theorem item_follows {tree : Tree} {first : Bool} {part left : Bytes}
    (separates : Separates first c.rest part) (stands : tree.Stands part left) :
    ∃ start : Cursor, tree.Stands start.rest left ∧ nextItem first c = .ok (some start) := by
  cases first with
  | true =>
    have here : c.rest = part := separates
    obtain ⟨b, more, start, leads, peeked, atItem, writes, -⟩ := (here ▸ stands).peeked
    refine ⟨start, writes.stands atItem stands.ended, ?_⟩
    rw [nextItem, peeked]
    simp [(leads_opens leads).2]
  | false =>
    obtain ⟨gap, here, blank⟩ := separates
    obtain ⟨comma, atComma, peekedComma⟩ := peek_gap blank (by decide) here
    obtain ⟨b, more, start, leads, peeked, atItem, writes, -⟩ :=
      ((next_rest atComma).symm ▸ stands : tree.Stands comma.next.rest left).peeked
    refine ⟨start, writes.stands atItem stands.ended, ?_⟩
    have notClosing : b ≠ 0x5D := (leads_opens leads).2
    rw [nextItem, peekedComma]
    simp [peeked]

theorem values_cons (read : β → Option α) (first : β) (others : List β) :
    (first :: others).mapM read = (read first).bind fun a => (others.mapM read).map (a :: ·) := by
  rw [List.mapM_cons]
  cases read first with
  | none => rfl
  | some a => cases others.mapM read <;> rfl

/-- Every item has its value. -/
theorem values_iff {read : β → Option α} {items : List β} {values : List α} :
    items.mapM read = some values ↔
      List.Forall₂ (fun item value => read item = some value) items values := by
  induction items generalizing values with
  | nil => cases values <;> simp
  | cons item items ih =>
    rw [values_cons, List.forall₂_cons_left_iff, Option.bind_eq_some_iff]
    simp only [Option.map_eq_some_iff, ih]
    constructor
    · rintro ⟨value, first, others, each, rfl⟩
      exact ⟨value, others, first, each, rfl⟩
    · rintro ⟨value, others, first, each, rfl⟩
      exact ⟨value, first, others, each, rfl⟩

theorem values_some {read : β → Option α} {items : List β} :
    (∃ values, items.mapM read = some values) ↔ ∀ item ∈ items, ∃ value, read item = some value := by
  induction items with
  | nil => simp
  | cons item items ih =>
    rw [values_cons, List.forall_mem_cons, ← ih]
    constructor
    · rintro ⟨values, each⟩
      obtain ⟨first, read, rest⟩ := Option.bind_eq_some_iff.mp each
      obtain ⟨others, behind, -⟩ := Option.map_eq_some_iff.mp rest
      exact ⟨⟨first, read⟩, others, behind⟩
    · rintro ⟨⟨first, read⟩, others, behind⟩
      exact ⟨first :: others, by rw [read, Option.bind_some, behind]; rfl⟩

theorem mem_values_iff {read : β → Option α} {items : List β} {values : List α} {value : α}
    (each : items.mapM read = some values) : value ∈ values ↔ ∃ item ∈ items, read item = some value := by
  rw [values_iff] at each
  induction each with
  | nil => simp
  | cons first _ ih => simp [first, ih, eq_comm]

/-- The items of a list up to its closing bracket. -/
theorem items_make {item : Decoder α} {depth : Nat} {read : Tree → Option α}
    {items : List Tree} (makes : ∀ tree ∈ items, Makes item depth tree (read tree)) {first : Bool}
    (index : Nat) (isFirst : (index == 0) = first) (taken : List α) {bound : Nat}
    (bounded : items.length < bound) (stands : ItemsStand first items c.rest rest) :
    ∃ gap, IsGap gap ∧ Answers ((items.mapM read).map (taken.reverse ++ ·)) (gap ++ 0x5D :: rest)
      (itemsLoop (item depth) bound index taken c) := by
  obtain ⟨spare, rfl⟩ : ∃ spare, bound = spare + 1 := ⟨bound - 1, by omega⟩
  induction items generalizing index first taken spare c with
  | nil =>
    obtain ⟨gap, here, blank⟩ := items_end stands
    obtain ⟨start, -, peeked⟩ := peek_gap blank (by decide) here
    refine ⟨gap, blank, c, here, ?_⟩
    have ended : nextItem (index == 0) c = .ok none := by
      rw [nextItem, peeked]
      rfl
    rw [itemsLoop, ended]
    simp [bind, Except.bind]
    rfl
  | cons tree items ih =>
    obtain ⟨makesFirst, makesOthers⟩ := List.forall_mem_cons.mp makes
    obtain ⟨part, left, separates, standsItem, standsOthers⟩ := items_next stands
    obtain ⟨start, standsHere, follows⟩ := item_follows separates standsItem
    rw [List.length_cons] at bounded
    obtain ⟨fewer, rfl⟩ : ∃ fewer, spare = fewer + 1 := ⟨spare - 1, by omega⟩
    rw [itemsLoop, isFirst, follows, values_cons, Option.map_bind]
    refine answers_bind_before (inside_answers (.item index) (makesFirst start left standsHere))
      fun a behind atLeft => ?_
    obtain ⟨gap, blank, others⟩ :=
      ih makesOthers (index + 1) rfl (a :: taken) (atLeft ▸ standsOthers) fewer (by omega)
    refine ⟨gap, blank, ?_⟩
    simpa only [Option.map_map, Function.comp_def, List.reverse_cons, List.append_assoc,
      List.singleton_append] using others

theorem items_length {items : List Tree} {first : Bool} {bytes : Bytes}
    (stands : ItemsStand first items bytes rest) : items.length < bytes.length := by
  induction items generalizing first bytes with
  | nil =>
    obtain ⟨gap, rfl, -⟩ := items_end stands
    simp only [List.length_nil, List.length_append, List.length_cons]
    omega
  | cons tree items ih =>
    obtain ⟨part, left, separates, standsItem, standsOthers⟩ := items_next stands
    have shorter := ih standsOthers
    obtain ⟨gap, b, more, rfl, -⟩ := standsItem.shape
    have longer : (gap ++ b :: (more ++ left)).length ≤ bytes.length := by
      cases first with
      | true => exact Nat.le_of_eq (congrArg List.length separates).symm
      | false =>
        obtain ⟨lead, rfl, -⟩ := separates
        simp
        omega
    simp at longer ⊢
    omega

theorem list_makes {item : Decoder α} {depth : Nat} {read : Tree → Option α}
    (makes : ∀ tree, Makes item (depth + 1) tree (read tree)) (tree : Tree) :
    Makes (list item) (depth + 2) tree (items? read tree) := by
  intro c rest stands
  obtain ⟨b, more, start, leads, peeked, here, writes, -⟩ := stands.peeked
  rw [list, peeked_first peeked]
  cases tree with
  | list items =>
    obtain rfl : b = _ := leads
    have standsItems : ItemsStand true items start.next.rest rest :=
      (next_rest here).symm ▸ writes.items rest
    have room : items.length < start.next.rest.length + 2 :=
      Nat.lt_add_right 2 (items_length standsItems)
    obtain ⟨gap, blank, answer⟩ := items_make (fun tree _ => makes tree) 0 rfl [] room standsItems
    rw [if_pos rfl, enter]
    refine closing_answers (list_closes blank) ?_
    simpa [Tree.items?] using answer
  | _ =>
    rw [if_neg fun bracket => by simpa using (kind_of_lead leads).bracket bracket]
    exact mismatched

end Gatehouse.Json.Decoder
