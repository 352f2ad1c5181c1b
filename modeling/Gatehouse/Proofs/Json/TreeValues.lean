import Gatehouse.Proofs.Json.TreeRecords

/-!
Plain values. What a value of the grammar is where no shape is asked for: the same tree with its
strings spelled and its numerals told apart, if no more brackets are open than may be.
-/
namespace Gatehouse.Json
open Cursor Decoder

namespace Tree

open Classical in
/-- The number of a numeral, the same wherever it stands. -/
noncomputable def number? (numeral : Bytes) : Option Number :=
  if number : IsNumber numeral then (signed_number_answers number).choose else none

/-- The name and the value of a member. -/
def pair? {α : Type} (reads : Tree → Option α) (member : List Piece × Tree) : Option (String × α) :=
  (spelled? member.1).bind fun key => (reads member.2).map fun value => (key, value)

/-- The plain value of a tree. The recursion is on the brackets that may be opened, plus one. -/
noncomputable def value? : Nat → Tree → Option Value
  | 0, _ => none
  | _ + 1, .null => some .null
  | _ + 1, .bool value => some (.bool value)
  | _ + 1, .number numeral => (number? numeral).map .number
  | _ + 1, .text pieces => (spelled? pieces).map .text
  | depth + 1, .list items =>
    if depth = 0 then none else (items.mapM (value? depth)).map .list
  | depth + 1, .object members =>
    if depth = 0 then none else (members.mapM (pair? (value? depth))).map .object

theorem pair_iff {α : Type} {reads : Tree → Option α} {member : List Piece × Tree} {pair : String × α} :
    pair? reads member = some pair ↔ spelled? member.1 = some pair.1 ∧ reads member.2 = some pair.2 := by
  obtain ⟨key, value⟩ := pair
  simp only [pair?, Option.bind_eq_some_iff, Option.map_eq_some_iff, Prod.mk.injEq]
  constructor
  · rintro ⟨_, spelled, _, is, rfl, rfl⟩
    exact ⟨spelled, is⟩
  · rintro ⟨spelled, is⟩
    exact ⟨key, spelled, value, is, rfl, rfl⟩

theorem names_of_pairs {α : Type} {reads : Tree → Option α} {members : List (List Piece × Tree)}
    {pairs : List (String × α)} (each : members.mapM (pair? reads) = some pairs) :
    pairs.map Prod.fst = (members.map Prod.fst).filterMap spelled? := by
  rw [values_iff] at each
  induction each with
  | nil => rfl
  | cons first _ ih => simp [(pair_iff.mp first).1, ih]

theorem value_list_iff {items : List Tree} {depth : Nat} {value : Value} :
    (Tree.list items).value? depth = some value ↔ ∃ deeper values, depth = deeper + 2 ∧
      items.mapM (value? (deeper + 1)) = some values ∧ .list values = value := by
  match depth with
  | 0 => simp [value?]
  | 1 => simp [value?]
  | deeper + 2 => simp [value?]

theorem value_object_iff {members : List (List Piece × Tree)} {depth : Nat} {value : Value} :
    (Tree.object members).value? depth = some value ↔ ∃ deeper pairs, depth = deeper + 2 ∧
      members.mapM (pair? (value? (deeper + 1))) = some pairs ∧ .object pairs = value := by
  match depth with
  | 0 => simp [value?]
  | 1 => simp [value?]
  | deeper + 2 => simp [value?]

theorem number_is {numeral : Bytes} (number : IsNumber numeral) :
    (∀ (c : Cursor) rest, c.rest = numeral ++ rest → Ended rest →
      Answers (number? numeral) rest c.signedNumber) ∧
    ((∃ n, natural? numeral = some n ∧ n < 2 ^ 64 ∧ number? numeral = some (.unsigned n)) ∨
      (∀ n, natural? numeral = some n → 2 ^ 64 ≤ n) ∧ (∀ n, number? numeral ≠ some (.unsigned n)) ∧
        ∀ n, number? numeral = some (.negative n) → n < 0) := by
  rw [number?, dif_pos number]
  exact (signed_number_answers number).choose_spec

theorem natural_of_unsigned {numeral : Bytes} {n : Nat} (is : number? numeral = some (.unsigned n)) :
    natural? numeral = some n := by
  by_cases number : IsNumber numeral
  · rcases (number_is number).2 with ⟨m, natural, -, same⟩ | ⟨-, notUnsigned, -⟩
    · cases same.symm.trans is
      exact natural
    · exact absurd is (notUnsigned n)
  · rw [number?, dif_neg number] at is
    cases is

/-- What a tree with a plain value looks like. -/
inductive Told : Tree → Value → Prop where
  | null : Told .null .null
  | bool (value : Bool) : Told (.bool value) (.bool value)
  | number {numeral : Bytes} {n : Number} (is : number? numeral = some n) :
    Told (.number numeral) (.number n)
  | text {pieces : List Piece} {text : String} (spelled : spelled? pieces = some text) :
    Told (.text pieces) (.text text)
  | list {depth : Nat} {items : List Tree} {values : List Value}
    (each : items.mapM (value? depth) = some values) : Told (.list items) (.list values)
  | object {depth : Nat} {members : List (List Piece × Tree)} {pairs : List (String × Value)}
    (each : members.mapM (pair? (value? depth)) = some pairs) : Told (.object members) (.object pairs)

theorem value_told {depth : Nat} {tree : Tree} {value : Value} (is : tree.value? depth = some value) :
    tree.Told value := by
  cases depth with
  | zero => cases is
  | succ depth =>
    cases tree with
    | null =>
      cases is
      exact .null
    | bool b =>
      cases is
      exact .bool b
    | number numeral =>
      obtain ⟨n, number, rfl⟩ := Option.map_eq_some_iff.mp is
      exact .number number
    | text pieces =>
      obtain ⟨text, spelled, rfl⟩ := Option.map_eq_some_iff.mp is
      exact .text spelled
    | list items =>
      obtain ⟨_, values, -, each, rfl⟩ := value_list_iff.mp is
      exact .list each
    | object members =>
      obtain ⟨_, pairs, -, each, rfl⟩ := value_object_iff.mp is
      exact .object each

end Tree

namespace Decoder
open Json.Tree

variable {α : Type} {c : Cursor} {rest : Bytes}

private theorem members_loop_makes {depth : Nat} {reads : Tree → Option Value}
    (makes : ∀ tree, Makes anyValue depth tree (reads tree)) {members : List (List Piece × Tree)}
    {first : Bool} (taken : List (String × Value)) {bound : Nat} (bounded : members.length < bound)
    (stands : MembersStand first members c.rest rest) :
    ∃ gap, IsGap gap ∧ Answers ((members.mapM (pair? reads)).map (taken.reverse ++ ·))
      (gap ++ 0x7D :: rest) (anyValue.membersLoop (anyValue depth) bound first taken c) := by
  obtain ⟨spare, rfl⟩ : ∃ spare, bound = spare + 1 := ⟨bound - 1, by omega⟩
  induction members generalizing first taken spare c with
  | nil =>
    obtain ⟨close, gap, blank, here⟩ := members_close stands
    refine ⟨gap, blank, c, here, ?_⟩
    rw [anyValue.membersLoop, close]
    simp [bind, Except.bind]
    rfl
  | cons member members ih =>
    obtain ⟨name, tree⟩ := member
    obtain ⟨left, standsOthers, follows⟩ := member_follows stands
    rw [List.length_cons] at bounded
    obtain ⟨fewer, rfl⟩ : ∃ fewer, spare = fewer + 1 := ⟨spare - 1, by omega⟩
    rw [values_cons, pair?, anyValue.membersLoop]
    rcases follows with ⟨unspelled, stop, refused⟩ |
      ⟨key, behind, value, spelled, next, atColon, standsValue⟩
    · simp only [unspelled, refused, bind, Except.bind, Option.bind_none]
      exact refused_before _ stop
    · simp only [spelled, next, atColon, bind, Except.bind, Option.bind_some, Option.bind_map,
        Option.map_bind]
      refine answers_bind_before (inside_answers (.member key) (makes tree value left standsValue))
        fun a after atLeft => ?_
      obtain ⟨gap, blank, others⟩ := ih ((key, a) :: taken) (atLeft ▸ standsOthers) fewer (by omega)
      refine ⟨gap, blank, ?_⟩
      simpa only [Option.map_map, Function.comp_def, List.reverse_cons, List.append_assoc,
        List.singleton_append] using others

/-- Any value is read as what its tree is. -/
theorem any_makes (depth : Nat) (tree : Tree) : Makes anyValue depth tree (tree.value? depth) := by
  induction depth generalizing tree with
  | zero =>
    intro c rest _
    exact ⟨_, rfl⟩
  | succ depth ih =>
    intro c rest stands
    obtain ⟨b, more, start, leads, peeked, here, writes, -⟩ := stands.peeked
    rw [anyValue, peeked_first peeked]
    cases tree with
    | null =>
      cases writes
      exact literal_answers _ (next_rest here)
    | bool value =>
      cases writes with
      | yes | no =>
        exact literal_answers _ (next_rest here)
    | number numeral =>
      cases writes with
      | number number =>
        have kind := kind_of_lead leads
        have numeric : (b = 0x2D || isDigit b) = true := leads
        rw [if_neg fun null => by simpa using kind.null null,
          if_neg fun yes => by simpa using kind.yes yes, if_neg fun no => by simpa using kind.no no,
          if_neg fun quote => by simpa using kind.quote quote, if_pos numeric]
        exact answers_map Value.number ((number_is number).1 start rest here stands.ended)
    | text pieces =>
      cases writes with
      | text formed =>
        rw [List.append_assoc] at here
        exact answers_map Value.text (string_answers formed (next_rest here))
    | list items =>
      obtain rfl : b = _ := leads
      cases depth with
      | zero => exact ⟨_, rfl⟩
      | succ depth =>
        have standsItems : ItemsStand true items start.next.rest rest :=
          (next_rest here).symm ▸ writes.items rest
        have room : items.length < start.rest.length + 1 := by
          have inside := items_length standsItems
          simp [next_rest here, here] at inside ⊢
          omega
        obtain ⟨gap, blank, answer⟩ := items_make (fun tree _ => ih tree) 0 rfl [] room standsItems
        refine closing_answers (list_closes blank) ?_
        simpa [Tree.value?] using answers_map Value.list answer
    | object members =>
      obtain rfl : b = _ := leads
      cases depth with
      | zero => exact ⟨_, rfl⟩
      | succ depth =>
        have standsMembers : MembersStand true members start.next.rest rest :=
          (next_rest here).symm ▸ writes.members rest
        have room : members.length < start.rest.length + 1 := by
          have inside := members_length standsMembers
          simp [next_rest here, here] at inside ⊢
          omega
        obtain ⟨gap, blank, answer⟩ := members_loop_makes ih [] room standsMembers
        refine closing_answers (object_closes blank) ?_
        simpa [Tree.value?] using answers_map Value.object answer

/-! ## Names -/

private theorem known_answers {known : List (String × α)} {depth : Nat} {text : Option String}
    (answers : Answers text rest (textAs "variant identifier" depth c)) :
    Answers (text.bind fun name => known.lookup name) rest (do
      let (text, c) ← textAs "variant identifier" depth c
      match known.lookup text with
      | some a => return (a, c)
      | none => c.failHere (.unknownVariant text (known.map Prod.fst))) := by
  refine answers_bind answers fun text after left => ?_
  dsimp only
  cases known.lookup text with
  | some a => exact ⟨after, left, rfl⟩
  | none => exact ⟨_, rfl⟩

private theorem name_alone {others : List (List Piece × Tree)}
    (stands : MembersStand false others c.rest rest) (a : α) :
    Answers (if others = [] then some a else none) rest (match c.peek with
      | (some 0x7D, c) => return (a, c.next)
      | (some _, c) => c.failHere .expectedValue
      | (none, c) => c.failHere .endInObject) := by
  cases others with
  | nil =>
    obtain ⟨gap, here, blank⟩ := members_end stands
    obtain ⟨start, atEnd, peeked⟩ := peek_gap blank (by decide) here
    rw [peeked]
    exact ⟨start.next, next_rest atEnd, rfl⟩
  | cons member others =>
    obtain ⟨part, _, _, _, _, _, ⟨gap, here, blank⟩, -⟩ := members_next stands
    obtain ⟨start, -, peeked⟩ := peek_gap blank (by decide) here
    rw [peeked]
    exact ⟨_, rfl⟩

/-- The members of an object are a name if there is just one, whose value is null. -/
private theorem name_answers {known : List (String × α)} {depth deeper : Nat}
    {named : Cursor → Except Stop (α × Cursor)}
    (reads : ∀ text (c : Cursor) rest, Answers text rest (textAs "variant identifier" depth c) →
      Answers (text.bind fun name => known.lookup name) rest (named c))
    {members : List (List Piece × Tree)} (stands : MembersStand true members c.rest rest) :
    Answers ((Tree.object members).name?.bind fun name => known.lookup name) rest
      (named c >>= fun (a, c) => do
        let c ← colon c
        let (_, c) ← unit deeper c
        match c.peek with
        | (some 0x7D, c) => return (a, c.next)
        | (some _, c) => c.failHere .expectedValue
        | (none, c) => c.failHere .endInObject) := by
  cases members with
  | nil =>
    obtain ⟨gap, atEnd, blank⟩ := members_end stands
    obtain ⟨brace, -, peekedBrace⟩ := peek_gap blank (by decide) atEnd
    have noText : Answers none rest (textAs "variant identifier" depth c) := by
      rw [textAs, peeked_first peekedBrace, if_neg (by decide)]
      exact mismatched
    obtain ⟨stop, refused⟩ := reads none c rest noText
    exact ⟨stop, by rw [refused]; rfl⟩
  | cons member others =>
    obtain ⟨name, value⟩ := member
    obtain ⟨part, gap, behindName, behindGap, behindColon, left, atPart, shape, blank, formed, rfl,
      blankName, standsValue, standsOthers⟩ := members_next stands
    have atName : c.rest = gap ++ 0x22 :: (piecesBytes name ++ 0x22 ::
      (behindGap ++ 0x3A :: behindColon)) := atPart.trans shape
    obtain ⟨quote, atQuote, peekedQuote⟩ := peek_gap blank (by decide) atName
    have text : Answers (spelled? name) (behindGap ++ 0x3A :: behindColon)
        (textAs "variant identifier" depth c) := by
      rw [textAs, peeked_first peekedQuote, if_pos rfl]
      exact string_answers formed (next_rest atQuote)
    have same : (Tree.object ((name, value) :: others)).name?.bind (fun name => known.lookup name) =
        ((spelled? name).bind fun name => known.lookup name).bind fun a =>
          value.null?.bind fun _ => if others = [] then some a else none := by
      cases value <;> cases others <;> simp [Tree.name?, Tree.null?]
    rw [same]
    refine answers_bind (reads _ c _ text) fun a behind atColon => ?_
    obtain ⟨start, atStart, peeked⟩ := peek_gap blankName (by decide) atColon
    have colon : colon behind = .ok start.next := by
      rw [colon, peeked]
      rfl
    simp only [colon, bind, Except.bind]
    refine answers_bind (unit_makes _ _ _ _ ((next_rest atStart).symm ▸ standsValue))
      fun _ after atLeft => ?_
    exact name_alone (atLeft.symm ▸ standsOthers) a

/-- A name in an object needs room for one more bracket. -/
theorem choice_makes (known : List (String × α)) (depth : Nat) (tree : Tree) :
    Makes (choice known) depth tree
      ((if depth < 2 then tree.text? else tree.name?).bind fun name => known.lookup name) := by
  intro c rest stands
  obtain ⟨b, more, start, leads, peeked, here, writes, -⟩ := stands.peeked
  rw [choice, peeked]
  cases tree with
  | text pieces =>
    obtain rfl : b = _ := leads
    have same : (if depth < 2 then (Tree.text pieces).text? else (Tree.text pieces).name?) =
        (Tree.text pieces).text? := ite_self _
    rw [same]
    exact known_answers (text_makes _ _ _ start rest (writes.stands here stands.ended))
  | object members =>
    obtain rfl : b = _ := leads
    by_cases shallow : depth < 2
    · rw [if_pos shallow]
      exact enter_shallow shallow
    · rw [if_neg shallow]
      obtain ⟨deeper, rfl⟩ : ∃ deeper, depth = deeper + 2 := ⟨depth - 2, by omega⟩
      simp only [enter]
      exact name_answers (fun _ _ _ => known_answers) ((next_rest here).symm ▸ writes.members rest)
  | _ =>
    have same {other : Tree} (_ : other.text? = none) (_ : other.name? = none) :
        ((if depth < 2 then other.text? else other.name?).bind fun name => known.lookup name) = none := by
      simp [*]
    rw [same rfl rfl]
    have kind := kind_of_lead leads
    have notQuote : b ≠ 0x22 := fun quote => by simpa using kind.quote quote
    have notBrace : b ≠ 0x7B := fun brace => by simpa using kind.brace brace
    split
    · rename_i same
      cases same
      exact absurd rfl notQuote
    · rename_i same
      cases same
      exact absurd rfl notBrace
    · exact ⟨_, rfl⟩
    · exact ⟨_, rfl⟩

end Decoder

/-! ## Written values -/

namespace Tree
open Utf8

/-- The text is that of a value, which is that plain value. -/
def Tells (depth : Nat) (text : String) (value : Value) : Prop :=
  ∃ tree : Tree, tree.Writes (encode text) ∧ tree.value? depth = some value

theorem quote_tells (depth : Nat) (text : String) : Tells (depth + 1) (quote text) (.text text) := by
  obtain ⟨pieces, writes, spelled⟩ := quote_tree text
  exact ⟨_, writes, by rw [value?, spelled]; rfl⟩

theorem decimal_tells (depth : Nat) {n : Nat} (fits : n < 2 ^ 64) :
    Tells (depth + 1) (Numeral.decimal n) (.number (.unsigned n)) := by
  obtain ⟨isNumeral, natural⟩ := digits_numeral n
  have number : IsNumber (digits n) := .inl isNumeral
  refine ⟨.number (digits n), ?_, ?_⟩
  · rw [decimal_bytes]
    exact .number number
  · rcases (number_is number).2 with ⟨m, same, -, is⟩ | ⟨large, -⟩
    · obtain rfl := Option.some.inj (natural.symm.trans same)
      rw [value?, is]
      rfl
    · exact absurd (large n natural) (by omega)

/-- A written object has the members that were written, in their order. -/
theorem object_tells {depth : Nat} (members : List ((String × String) × Value))
    (each : ∀ member ∈ members, Tells (depth + 1) member.1.2 member.2) :
    Tells (depth + 2) (objectText (members.map Prod.fst))
      (.object (members.map fun member => (member.1.1, member.2))) := by
  choose! tree writes values using each
  have eachPaired : ∀ pair ∈ members.map fun member => (member.1, tree member),
      pair.2.Writes (encode pair.1.2) := List.forall_mem_map.mpr writes
  obtain ⟨named, writesAll, same⟩ := members_tree eachPaired
  rw [List.map_map] at writesAll same
  refine ⟨.object named, by simpa [Function.comp_def] using writesAll, ?_⟩
  have pairs : named.mapM (pair? (value? (depth + 1))) =
      some (members.map fun member => (member.1.1, member.2)) := by
    let pair (part : Option String × Tree) : Option (String × Value) :=
      part.1.bind fun key => (value? (depth + 1) part.2).map fun value => (key, value)
    have byParts : named.mapM (pair? (value? (depth + 1))) =
        (named.map fun member => (spelled? member.1, member.2)).mapM pair := by
      rw [List.mapM_map]
      rfl
    rw [byParts, same, List.mapM_map, Decoder.values_iff, List.forall₂_map_right_iff,
      List.forall₂_same]
    intro member held
    simp [pair, values member held]
  rw [value?, if_neg (Nat.succ_ne_zero depth), pairs]
  rfl

/-- A written value alone is a document of that value. -/
theorem Tells.document {text : String} {value : Value} (tells : Tells Decoder.depthLimit text value) :
    Decoder.run Decoder.anyValue (encode text) = .ok value := by
  obtain ⟨tree, writes, is⟩ := tells
  have read := Decoder.document_makes (Decoder.any_makes Decoder.depthLimit tree) writes.document
  rw [is] at read
  exact to_option_iff.mp read

end Tree
end Gatehouse.Json
