import Gatehouse.Proofs.Json.TreeReading

/-!
What decoders make of objects. The members of a record are put into it one after the other; a name
that belongs to no field is passed over, or kept, and a field that is named twice is a refusal.
-/
namespace Gatehouse.Json.Decoder
open Cursor Json.Tree

variable {α β σ τ : Type} {c : Cursor} {rest : Bytes}

/-! ## Members -/

private theorem name_follows {name : List Piece} {first : Bool} {part lead behind : Bytes}
    (separates : Separates first c.rest part)
    (shape : part = lead ++ 0x22 :: (piecesBytes name ++ 0x22 :: behind)) (blank : IsGap lead)
    (formed : ∀ piece ∈ name, piece.IsFormed) :
    (spelled? name = none → ∃ stop, nextMember first c = .error stop) ∧
    ∀ key, spelled? name = some key → ∃ after : Cursor, after.rest = behind ∧
      nextMember first c = .ok (some (key, after)) := by
  have reached : ∃ quote : Cursor, quote.rest = 0x22 :: (piecesBytes name ++ 0x22 :: behind) ∧
      nextMember first c = quote.next.string.map some := by
    cases first with
    | true =>
      have here : c.rest = part := separates
      obtain ⟨quote, atName, peeked⟩ := peek_gap blank (by decide) (here.trans shape)
      refine ⟨quote, atName, ?_⟩
      rw [nextMember, peeked]
      rfl
    | false =>
      obtain ⟨gap, here, blankComma⟩ := separates
      obtain ⟨comma, atComma, peekedComma⟩ := peek_gap blankComma (by decide) here
      obtain ⟨quote, atName, peeked⟩ :=
        peek_gap blank (by decide) ((next_rest atComma).trans shape)
      refine ⟨quote, atName, ?_⟩
      rw [nextMember, peekedComma]
      simp [peeked]
  obtain ⟨quote, atName, reads⟩ := reached
  have answer := string_answers formed (next_rest atName)
  rw [reads]
  refine ⟨fun none => ?_, fun key some => ?_⟩
  · rw [none] at answer
    obtain ⟨stop, refused⟩ := answer
    exact ⟨stop, by rw [refused]; rfl⟩
  · rw [some] at answer
    obtain ⟨after, left, read⟩ := answer
    exact ⟨after, left, by rw [read]; rfl⟩

/-- In front of a member: its name, if its pieces spell one, the colon, and its value. -/
theorem member_follows {name : List Piece} {tree : Tree} {members : List (List Piece × Tree)}
    {first : Bool} (stands : MembersStand first ((name, tree) :: members) c.rest rest) :
    ∃ left, MembersStand false members left rest ∧
      ((spelled? name = none ∧ ∃ stop, nextMember first c = .error stop) ∨
        ∃ key behind value, spelled? name = some key ∧
          nextMember first c = .ok (some (key, behind)) ∧ colon behind = .ok value ∧
          tree.Stands value.rest left) := by
  obtain ⟨part, lead, behindName, behindGap, behindColon, left, separates, shape, blank, formed, rfl,
    blankBehind, standsValue, standsOthers⟩ := members_next stands
  obtain ⟨refuses, reads⟩ := name_follows separates shape blank formed
  refine ⟨left, standsOthers, ?_⟩
  cases spelled : spelled? name with
  | none => exact .inl ⟨rfl, refuses spelled⟩
  | some key =>
    obtain ⟨behind, atColon, read⟩ := reads key spelled
    obtain ⟨start, atStart, peeked⟩ := peek_gap blankBehind (by decide) atColon
    have behindColon := next_rest atStart
    refine .inr ⟨key, behind, start.next, rfl, read, ?_, behindColon.symm ▸ standsValue⟩
    rw [colon, peeked]
    rfl

theorem members_close {first : Bool} (stands : MembersStand first [] c.rest rest) :
    nextMember first c = .ok none ∧ ∃ gap, IsGap gap ∧ c.rest = gap ++ 0x7D :: rest := by
  obtain ⟨gap, here, blank⟩ := members_end stands
  obtain ⟨start, -, peeked⟩ := peek_gap blank (by decide) here
  refine ⟨?_, gap, blank, here⟩
  rw [nextMember, peeked]
  rfl

theorem members_length {members : List (List Piece × Tree)} {first : Bool} {bytes : Bytes}
    (stands : MembersStand first members bytes rest) : members.length < bytes.length := by
  induction members generalizing first bytes with
  | nil =>
    obtain ⟨gap, rfl, -⟩ := members_end stands
    simp only [List.length_nil, List.length_append, List.length_cons]
    omega
  | cons member members ih =>
    obtain ⟨part, lead, behindName, behindGap, behindColon, left, separates, rfl, -, -, rfl, -,
      standsValue, standsOthers⟩ := members_next stands
    have shorter := ih standsOthers
    obtain ⟨gap, b, more, rfl, -⟩ := standsValue.shape
    cases first with
    | true =>
      obtain rfl : bytes = _ := separates
      simp at shorter ⊢
      omega
    | false =>
      obtain ⟨comma, rfl, -⟩ := separates
      simp at shorter ⊢
      omega

/-! ## Records -/

/-- A record on the way: what has been put into it, the fields that were named, and the members that
were kept, the last ones first. -/
structure Filled (σ : Type) where
  record : σ
  seen : List String
  kept : List (String × Value)

/-- What one more member does. `reads` is what the fields make of a value, `keeps` what is made of the
value of an unknown member. -/
def fill (fields : List (Field σ)) (reads : Field σ → Tree → Option (σ → σ))
    (keeps : Tree → Option (Option Value)) (filled : Filled σ) (member : List Piece × Tree) :
    Option (Filled σ) :=
  (spelled? member.1).bind fun key =>
    match fields.find? (·.name == key) with
    | some field =>
      if filled.seen.contains key then none
      else (reads field member.2).map fun put =>
        { filled with record := put filled.record, seen := key :: filled.seen }
    | none => (keeps member.2).map fun value =>
      { filled with kept := value.toList.map (fun value => (key, value)) ++ filled.kept }

theorem members_make {fields : List (Field σ)} {depth : Nat}
    {reads : Field σ → Tree → Option (σ → σ)} {keeps : Tree → Option (Option Value)}
    {other : Cursor → Except Stop (Option Value × Cursor)}
    (makes : ∀ field ∈ fields, ∀ tree, Makes field.read depth tree (reads field tree))
    (others : ∀ tree, Makes (fun _ => other) depth tree (keeps tree))
    {members : List (List Piece × Tree)} {first : Bool} (filled : Filled σ) {bound : Nat}
    (bounded : members.length < bound) (stands : MembersStand first members c.rest rest) :
    ∃ gap, IsGap gap ∧ Answers ((members.foldlM (fill fields reads keeps) filled).map fun filled =>
        (filled.record, filled.seen, filled.kept.reverse)) (gap ++ 0x7D :: rest)
      (recordMembers fields depth other bound filled.seen filled.kept first filled.record c) := by
  obtain ⟨spare, rfl⟩ : ∃ spare, bound = spare + 1 := ⟨bound - 1, by omega⟩
  induction members generalizing first filled spare c with
  | nil =>
    obtain ⟨close, gap, blank, here⟩ := members_close stands
    refine ⟨gap, blank, c, here, ?_⟩
    rw [recordMembers, close]
    rfl
  | cons member members ih =>
    obtain ⟨name, tree⟩ := member
    obtain ⟨left, standsOthers, follows⟩ := member_follows stands
    rw [List.length_cons] at bounded
    obtain ⟨fewer, rfl⟩ : ∃ fewer, spare = fewer + 1 := ⟨spare - 1, by omega⟩
    rw [List.foldlM_cons, fill, recordMembers]
    rcases follows with ⟨unspelled, stop, refused⟩ | ⟨key, behind, value, spelled, next, atColon, standsValue⟩
    · simp only [unspelled, refused, bind, Except.bind, Option.bind_none]
      exact refused_before _ stop
    · simp only [spelled, next, atColon, bind, Except.bind, Option.bind_some]
      cases found : fields.find? (·.name == key) with
      | some field =>
        dsimp only
        by_cases again : filled.seen.contains key = true
        · simp only [again, if_true]
          exact refused_before _ _
        · simp only [again, Bool.false_eq_true, if_false, Option.bind_map, Option.map_bind]
          refine answers_bind_before (inside_answers (.member key)
            (makes field (List.mem_of_find?_eq_some found) tree value left standsValue))
            fun put after atLeft => ?_
          exact ih _ (atLeft ▸ standsOthers) fewer (by omega)
      | none =>
        dsimp only
        simp only [Option.bind_map, Option.map_bind]
        refine answers_bind_before (inside_answers (.member key)
          (others tree value left standsValue)) fun keeping after atLeft => ?_
        cases keeping with
        | none => exact ih _ (atLeft ▸ standsOthers) fewer (by omega)
        | some kept => exact ih _ (atLeft ▸ standsOthers) fewer (by omega)

theorem check_required_absent {fields : List (Field σ)}
    (mayMiss : ∀ field ∈ fields, field.isRequired = false) (seen : List String) (c : Cursor) :
    checkRequired fields seen c = .ok () := by
  have complete : fields.find? (fun field => field.isRequired && !seen.contains field.name) = none :=
    List.find?_eq_none.mpr fun field member => by simp [mayMiss field member]
  rw [checkRequired, complete]

/-- An object, read as a record of which every field may be absent. -/
theorem record_makes {shape : Shape σ} {depth : Nat} {reads : Field σ → Tree → Option (σ → σ)}
    (makes : ∀ field ∈ shape.fields, ∀ tree,
      Makes field.read (depth + 1) tree (reads field tree))
    (mayMiss : ∀ field ∈ shape.fields, field.isRequired = false)
    (members : List (List Piece × Tree)) :
    Makes (record shape) (depth + 2) (.object members)
      ((members.foldlM (fill shape.fields reads fun _ => some none) ⟨shape.blank, [], []⟩).map
        Filled.record) := by
  intro c rest stands
  obtain ⟨b, more, start, rfl, peeked, here, writes, -⟩ := stands.peeked
  have standsMembers : MembersStand true members start.next.rest rest :=
    (next_rest here).symm ▸ writes.members rest
  have skips : ∀ tree, Makes (fun _ c => c.skipValue.map fun c => ((none : Option Value), c))
      (depth + 1) tree (some none) := by
    intro tree c rest stands
    obtain ⟨after, left, skipped⟩ := skip_value_passes stands
    exact ⟨after, left, by simp only [skipped]; rfl⟩
  have room : members.length < start.next.rest.length + 1 :=
    Nat.lt_succ_of_lt (members_length standsMembers)
  obtain ⟨gap, blank, answer⟩ := members_make makes skips ⟨shape.blank, [], []⟩
    room standsMembers
  rw [record, peeked_first peeked, if_pos rfl, enter]
  refine closing_answers (object_closes blank) ?_
  have same (filled : Option (Filled σ)) : filled.map Filled.record =
      (filled.map fun filled => (filled.record, filled.seen, filled.kept.reverse)).bind fun parts =>
        some parts.1 := by
    cases filled <;> rfl
  rw [same]
  refine answers_bind answer fun parts after left => ?_
  simp only [check_required_absent mayMiss, bind, Except.bind]
  exact ⟨after, left, rfl⟩

/-- An object, read as a record that keeps its unknown members and is finished with them. -/
theorem open_record_makes {shape : Shape σ} {finish : σ → List (String × Value) → Except Cause τ}
    {depth : Nat} {reads : Field σ → Tree → Option (σ → σ)} {keeps : Tree → Option Value}
    (makes : ∀ field ∈ shape.fields, ∀ tree,
      Makes field.read (depth + 1) tree (reads field tree))
    (others : ∀ tree, Makes anyValue (depth + 1) tree (keeps tree))
    (mayMiss : ∀ field ∈ shape.fields, field.isRequired = false)
    (members : List (List Piece × Tree)) :
    Makes (openRecord shape finish) (depth + 2) (.object members)
      ((members.foldlM (fill shape.fields reads fun tree => (keeps tree).map some)
        ⟨shape.blank, [], []⟩).bind fun filled =>
          (finish filled.record filled.kept.reverse).toOption) := by
  intro c rest stands
  obtain ⟨b, more, start, rfl, peeked, here, writes, -⟩ := stands.peeked
  have standsMembers : MembersStand true members start.next.rest rest :=
    (next_rest here).symm ▸ writes.members rest
  have keep : ∀ tree, Makes (fun _ c => (anyValue (depth + 1) c).map fun parsed => (some parsed.1, parsed.2))
      (depth + 1) tree ((keeps tree).map some) := by
    intro tree c rest stands
    have answer := others tree c rest stands
    cases kept : keeps tree with
    | none =>
      rw [kept] at answer
      obtain ⟨stop, refused⟩ := answer
      exact ⟨stop, by simp only [refused]; rfl⟩
    | some value =>
      rw [kept] at answer
      obtain ⟨after, left, read⟩ := answer
      exact ⟨after, left, by simp only [read]; rfl⟩
  have room : members.length < start.next.rest.length + 1 :=
    Nat.lt_succ_of_lt (members_length standsMembers)
  obtain ⟨gap, blank, answer⟩ := members_make makes keep ⟨shape.blank, [], []⟩
    room standsMembers
  rw [openRecord, peeked_first peeked, if_pos rfl, enter]
  refine closing_answers (object_closes blank) ?_
  have same (filled : Option (Filled σ)) :
      (filled.bind fun filled => (finish filled.record filled.kept.reverse).toOption) =
      (filled.map fun filled => (filled.record, filled.seen, filled.kept.reverse)).bind fun parts =>
        (finish parts.1 parts.2.2).toOption := by
    cases filled <;> rfl
  rw [same]
  refine answers_bind answer fun parts after left => ?_
  simp only [check_required_absent mayMiss, bind, Except.bind]
  cases finish parts.1 parts.2.2 with
  | ok result => exact ⟨after, left, rfl⟩
  | error cause => exact ⟨_, rfl⟩

/-- An open record reads from nothing but an object. -/
theorem open_record_other {shape : Shape σ} {finish : σ → List (String × Value) → Except Cause τ}
    {depth : Nat} {tree : Tree} (other : ∀ members, tree ≠ .object members) :
    Makes (openRecord shape finish) depth tree none := by
  intro c rest stands
  obtain ⟨b, more, start, leads, peeked, -⟩ := stands.peeked
  have notBrace : b ≠ 0x7B := fun brace => by
    obtain ⟨members, same⟩ := (kind_of_lead leads).brace brace
    exact other members same
  rw [openRecord, peeked_first peeked, if_neg notBrace]
  exact mismatched

/-- In front of another item a list does not close. -/
private theorem list_stays_open {tree : Tree} {items : List Tree} {first : Bool}
    (stands : ItemsStand first (tree :: items) c.rest rest) (a : α) :
    ∃ stop, closing closeList (.ok (a, c)) = .error stop := by
  have open_ : ∃ cause, (closeList c).1 = some cause := by
    obtain ⟨part, left, separates, standsItem, -⟩ := items_next stands
    have next : ∃ b start, c.peek = (some b, start) ∧ b ≠ 0x5D := by
      cases first with
      | true =>
        have here : c.rest = part := separates
        obtain ⟨b, more, start, leads, peeked, -⟩ := (here ▸ standsItem).peeked
        exact ⟨b, start, peeked, (leads_opens leads).2⟩
      | false =>
        obtain ⟨gap, here, blank⟩ := separates
        obtain ⟨comma, -, peeked⟩ := peek_gap blank (by decide) here
        exact ⟨0x2C, comma, peeked, by decide⟩
    obtain ⟨b, start, peeked, notClosing⟩ := next
    rw [closeList, peeked]
    split
    · rename_i same
      cases same
      exact absurd rfl notClosing
    · split <;> exact ⟨_, rfl⟩
    · exact ⟨_, rfl⟩
    · exact ⟨_, rfl⟩
  obtain ⟨cause, opened⟩ := open_
  rw [closing]
  split
  · rename_i closed
    rw [closed] at opened
    cases opened
  · exact ⟨_, rfl⟩

private theorem items_close {first : Bool} (stands : ItemsStand first [] c.rest rest) :
    nextItem first c = .ok none ∧ ∃ gap, IsGap gap ∧ c.rest = gap ++ 0x5D :: rest := by
  obtain ⟨gap, here, blank⟩ := items_end stands
  obtain ⟨start, -, peeked⟩ := peek_gap blank (by decide) here
  refine ⟨?_, gap, blank, here⟩
  rw [nextItem, peeked]
  rfl

/-- What the items of a list make of a record, its fields being told apart by their order. -/
def fillItems (shape : Shape σ) (reads : Field σ → Tree → Option (σ → σ)) :
    List (Field σ) → σ → List Tree → Option σ
  | [], record, [] => some record
  | [], _, _ :: _ => none
  | _ :: _, record, [] => if shape.shortLists then some record else none
  | field :: fields, record, tree :: items =>
    (reads field tree).bind fun put => fillItems shape reads fields (put record) items

private theorem record_items_make {shape : Shape σ} {depth : Nat}
    {reads : Field σ → Tree → Option (σ → σ)} {fields : List (Field σ)}
    (makes : ∀ field ∈ fields, ∀ tree, Makes field.read depth tree (reads field tree))
    (index : Nat) (record : σ) (items : List Tree)
    (stands : ItemsStand (index == 0) items c.rest rest) :
    Answers (fillItems shape reads fields record items) rest
      (closing closeList (recordItems shape depth fields index record c)) := by
  induction fields generalizing index record items c with
  | nil =>
    cases items with
    | nil =>
      obtain ⟨-, gap, blank, here⟩ := items_close stands
      exact closing_answers (list_closes blank) ⟨c, here, rfl⟩
    | cons tree items => exact list_stays_open stands record
  | cons field fields ih =>
    obtain ⟨makesFirst, makesOthers⟩ := List.forall_mem_cons.mp makes
    cases items with
    | nil =>
      obtain ⟨ended, gap, blank, here⟩ := items_close stands
      rw [recordItems, ended, fillItems]
      simp only [bind, Except.bind]
      split
      · exact closing_answers (list_closes blank) ⟨c, here, rfl⟩
      · exact closing_refused _
    | cons tree items =>
      obtain ⟨part, left, separates, standsItem, standsOthers⟩ := items_next stands
      obtain ⟨start, standsHere, follows⟩ := item_follows separates standsItem
      have answer := inside_answers (.item index) (makesFirst tree start left standsHere)
      rw [recordItems, follows, fillItems]
      cases read : reads field tree with
      | none =>
        rw [read] at answer
        obtain ⟨stop, refused⟩ := answer
        simp only [bind, Except.bind, refused]
        exact closing_refused stop
      | some put =>
        rw [read] at answer
        obtain ⟨after, atLeft, taken⟩ := answer
        simp only [bind, Except.bind, taken]
        exact ih makesOthers (index + 1) (put record) items (atLeft ▸ standsOthers)

/-- A list, read as a record whose fields are its items. -/
theorem record_list_makes {shape : Shape σ} {depth : Nat} {reads : Field σ → Tree → Option (σ → σ)}
    (makes : ∀ field ∈ shape.fields, ∀ tree,
      Makes field.read (depth + 1) tree (reads field tree)) (items : List Tree) :
    Makes (record shape) (depth + 2) (.list items)
      (fillItems shape reads shape.fields shape.blank items) := by
  intro c rest stands
  obtain ⟨b, more, start, rfl, peeked, here, writes, -⟩ := stands.peeked
  have standsItems : ItemsStand true items start.next.rest rest :=
    (next_rest here).symm ▸ writes.items rest
  rw [record, peeked_first peeked, if_neg (by decide), if_pos rfl, enter]
  exact record_items_make makes 0 shape.blank items standsItems

theorem record_other {shape : Shape σ} {depth : Nat} {tree : Tree}
    (noObject : ∀ members, tree ≠ .object members) (noList : ∀ items, tree ≠ .list items) :
    Makes (record shape) depth tree none := by
  intro c rest stands
  obtain ⟨b, more, start, leads, peeked, -⟩ := stands.peeked
  have kind := kind_of_lead leads
  have notBrace : b ≠ 0x7B := fun brace => (kind.brace brace).elim noObject
  have notBracket : b ≠ 0x5B := fun bracket => (kind.bracket bracket).elim noList
  rw [record, peeked_first peeked, if_neg notBrace, if_neg notBracket]
  exact mismatched

end Gatehouse.Json.Decoder
