import Gatehouse.Json.Decoder
import Gatehouse.Proofs.Json.Numerals
import Gatehouse.Proofs.Steps

/-!
Typed reading of written values. `Reads` says that a decoder takes a text as a value wherever the
text stands in a document; strings, whole numbers, lists and records are read part by part.
-/
namespace Gatehouse.Json.Decoder
open Utf8 Cursor

/-- The text of a value starts with no blank and with nothing that closes a list. -/
def Opens (text : Bytes) : Prop := ∃ b more, text = b :: more ∧ IsPlain b ∧ b ≠ 0x5D

/-- A decoder reads a text as a value, whatever follows it, where `nesting` more brackets may be
opened. -/
structure Reads {α : Type} (nesting : Nat) (decoder : Decoder α) (text : Bytes) (value : α) :
    Prop where
  opens : Opens text
  read : ∀ (depth : Nat) (c : Cursor) (rest : Bytes), nesting < depth → c.rest = text ++ rest →
    Ended rest → ∃ after : Cursor, after.rest = rest ∧ decoder depth c = .ok (value, after)

variable {α σ : Type} {c : Cursor} {rest : Bytes} {nesting : Nat}

/-- More room for brackets does no harm. -/
theorem Reads.deeper {decoder : Decoder α} {text : Bytes} {value : α} {more : Nat}
    (reads : Reads nesting decoder text value) (wider : nesting ≤ more) :
    Reads more decoder text value where
  opens := reads.opens
  read depth c rest enough := reads.read depth c rest (Nat.lt_of_le_of_lt wider enough)

theorem with_first {b : UInt8} {inner : UInt8 → Cursor → Except Stop α} (here : c.rest = b :: rest)
    (plain : IsPlain b) : withFirst inner c = inner b c := by
  rw [withFirst, peek_plain here plain]

/-! ## Strings and numbers -/

theorem quote_opens (value : String) : Opens (encode (quote value)) :=
  ⟨0x22, _, quote_bytes value, by decide, by decide⟩

theorem quote_reads (value : String) (here : c.rest = encode (quote value) ++ rest) :
    ∃ quote : Cursor, c.rest = 0x22 :: quote.rest ∧ c.next = quote ∧
      ∃ after : Cursor, after.rest = rest ∧ quote.string = .ok (value, after) := by
  rw [quote_bytes, List.cons_append, List.append_assoc] at here
  have behind := next_rest here
  obtain ⟨after, left, read⟩ := string_reads value behind
  exact ⟨c.next, by rw [behind, here], rfl, after, left, read⟩

theorem text_reads (expected value : String) :
    Reads 0 (textAs expected) (encode (quote value)) value where
  opens := quote_opens value
  read := by
    intro depth c rest _ here _
    obtain ⟨quote, first, behind, after, left, read⟩ := quote_reads value here
    refine ⟨after, left, ?_⟩
    rw [textAs, with_first first (by decide), if_pos rfl, behind, read]

private theorem signed_starts (n : Int) : ∃ b more, encode (Numeral.signed n) = b :: more ∧
    IsPlain b ∧ b ≠ 0x5D ∧ (b = 0x2D || isDigit b) = true := by
  rw [signed_bytes]
  split
  · exact ⟨0x2D, _, rfl, by decide, by decide, by decide⟩
  · obtain ⟨k, single, more, shape, -⟩ := digits_head n.natAbs
    have plain : ∀ k < 10, IsPlain (digit k) ∧ digit k ≠ 0x5D ∧
        (digit k = 0x2D || isDigit (digit k)) = true := by decide
    exact ⟨digit k, more, shape, plain k single⟩

theorem signed_opens (n : Int) : Opens (encode (Numeral.signed n)) := by
  obtain ⟨b, more, shape, plain, notClosing, -⟩ := signed_starts n
  exact ⟨b, more, shape, plain, notClosing⟩

/-- Numbers that fit a signed word of 64 bits. -/
theorem int64_reads {n : Int} (low : -2 ^ 63 ≤ n) (high : n < 2 ^ 63) :
    Reads 0 int64 (encode (Numeral.signed n)) n where
  opens := signed_opens n
  read := by
    intro depth c rest _ here ended
    obtain ⟨after, left, read⟩ := signed_number_reads low high ended here
    obtain ⟨b, more, shape, plain, -, numeric⟩ := signed_starts n
    have first : c.rest = b :: (more ++ rest) := by rw [here, shape, List.cons_append]
    have fits : -9223372036854775808 ≤ n ∧ n ≤ 9223372036854775807 := by omega
    refine ⟨after, left, ?_⟩
    rw [int64, integer, with_first first plain, if_pos numeric, read]
    by_cases negative : n < 0
    · simp only [negative, if_true, bind, Except.bind, fits, and_self]
      rfl
    · have same : (n.natAbs : Int) = n := by omega
      simp only [negative, if_false, bind, Except.bind, same, fits, and_self, if_true]
      rfl

/-! ## Truth values -/

theorem literal_reads {letters : Bytes} (here : c.rest = letters ++ rest) :
    ∃ after : Cursor, after.rest = rest ∧ c.literal letters = .ok after := by
  induction letters generalizing c with
  | nil => exact ⟨c, here, rfl⟩
  | cons b more ih =>
    rw [List.cons_append] at here
    obtain ⟨after, left, read⟩ := ih (next_rest here)
    refine ⟨after, left, ?_⟩
    simp only [literal, here, if_true, read]

/-- The word of a truth value. -/
theorem bool_reads (value : Bool) : Reads 0 bool (encode (if value then "true" else "false")) value := by
  have yes : encode "true" = [0x74, 0x72, 0x75, 0x65] := encode_of_list ['t', 'r', 'u', 'e']
  have no : encode "false" = [0x66, 0x61, 0x6C, 0x73, 0x65] :=
    encode_of_list ['f', 'a', 'l', 's', 'e']
  cases value with
  | true =>
    rw [if_pos rfl, yes]
    refine ⟨⟨0x74, _, rfl, by decide, by decide⟩, fun depth c rest _ here _ => ?_⟩
    obtain ⟨after, left, read⟩ := literal_reads (next_rest here)
    refine ⟨after, left, ?_⟩
    rw [bool, with_first here (by decide), if_pos rfl, read]
    rfl
  | false =>
    rw [if_neg Bool.false_ne_true, no]
    refine ⟨⟨0x66, _, rfl, by decide, by decide⟩, fun depth c rest _ here _ => ?_⟩
    obtain ⟨after, left, read⟩ := literal_reads (next_rest here)
    refine ⟨after, left, ?_⟩
    rw [bool, with_first here (by decide), if_neg (by decide), if_pos rfl, read]
    rfl

/-! ## Lists -/

/-- What stands behind a part of a list or an object cannot belong to the part. -/
theorem ended_separated {close : UInt8} (closes : close = 0x5D ∨ close = 0x7D)
    (parts : List Bytes) : Ended (separated false parts ++ close :: rest) := by
  cases parts with
  | nil =>
    intro b member
    cases member
    rcases closes with rfl | rfl <;> decide
  | cons part others =>
    intro b member
    cases member
    decide

private theorem next_item_opens {first : Bool} {part more : Bytes} (opens : Opens part)
    (here : c.rest = (if first then part else 0x2C :: part) ++ more) :
    ∃ item : Cursor, item.rest = part ++ more ∧ nextItem first c = .ok (some item) := by
  obtain ⟨b, inner, rfl, plain, notClosing⟩ := opens
  cases first with
  | true =>
    simp only [if_true, List.cons_append] at here
    refine ⟨c, here, ?_⟩
    rw [nextItem, peek_plain here plain]
    simp
  | false =>
    simp only [Bool.false_eq_true, if_false, List.cons_append] at here
    have behind := next_rest here
    refine ⟨c.next, behind, ?_⟩
    rw [nextItem, peek_plain here (by decide)]
    simp [peek_plain behind plain]

private theorem items_loop_reads {decoder : Decoder α} {depth : Nat} (enough : nesting < depth)
    {items : List (Bytes × α)} (reads : ∀ item ∈ items, Reads nesting decoder item.1 item.2)
    (index : Nat) (taken : List α) {bound : Nat} (bounded : items.length < bound)
    (here : c.rest = separated (index == 0) (items.map Prod.fst) ++ 0x5D :: rest) :
    ∃ after : Cursor, after.rest = 0x5D :: rest ∧
      itemsLoop (decoder depth) bound index taken c =
        .ok (taken.reverse ++ items.map Prod.snd, after) := by
  induction items generalizing index taken c bound with
  | nil =>
    obtain ⟨spare, rfl⟩ := Nat.exists_eq_add_of_lt bounded
    refine ⟨c, here, ?_⟩
    have close : nextItem (index == 0) c = .ok none := by
      rw [nextItem, peek_plain here (by decide)]
      rfl
    rw [itemsLoop, close, List.map_nil, List.append_nil]
    rfl
  | cons item others ih =>
    obtain ⟨readsItem, readsOthers⟩ := List.forall_mem_cons.mp reads
    obtain ⟨spare, rfl⟩ : ∃ spare, bound = spare + 1 := ⟨bound - 1, by omega⟩
    simp only [List.map_cons, separated, List.append_assoc] at here
    obtain ⟨start, atItem, next⟩ := next_item_opens readsItem.opens here
    obtain ⟨behind, left, read⟩ := readsItem.read depth start _ enough atItem
      (ended_separated (.inl rfl) _)
    have fewer : others.length < spare := Nat.lt_of_succ_lt_succ bounded
    obtain ⟨after, closed, more⟩ := ih readsOthers (index + 1) (item.2 :: taken) fewer left
    refine ⟨after, closed, ?_⟩
    rw [itemsLoop, next]
    simp only [bind, Except.bind, read, inside, more, List.reverse_cons, List.append_assoc,
      List.map_cons, List.cons_append, List.nil_append]

theorem separated_length (first : Bool) (parts : List Bytes) (nonempty : ∀ part ∈ parts, part ≠ []) :
    parts.length ≤ (separated first parts).length := by
  induction parts generalizing first with
  | nil => simp
  | cons part others ih =>
    obtain ⟨filled, rest⟩ := List.forall_mem_cons.mp nonempty
    have := ih false rest
    have := List.length_pos_iff.mpr filled
    cases first <;> simp [separated] <;> omega

/-- A written list is read item by item. -/
theorem list_reads {item : Decoder α} {items : List (Bytes × α)}
    (reads : ∀ entry ∈ items, Reads nesting item entry.1 entry.2) :
    Reads (nesting + 1) (list item) (0x5B :: (separated true (items.map Prod.fst) ++ [0x5D]))
      (items.map Prod.snd) where
  opens := ⟨0x5B, _, rfl, by decide, by decide⟩
  read := by
    intro depth c rest enough here _
    obtain ⟨depth, rfl⟩ : ∃ spare, depth = spare + 2 := ⟨depth - 2, by omega⟩
    rw [List.cons_append, List.append_assoc, List.cons_append, List.nil_append] at here
    have behind := next_rest here
    have nonempty : ∀ part ∈ items.map Prod.fst, part ≠ [] := by
      intro part member
      obtain ⟨entry, held, rfl⟩ := List.mem_map.mp member
      obtain ⟨b, more, shape, -⟩ := (reads entry held).opens
      simp [shape]
    have bounded : items.length < c.next.rest.length + 2 := by
      have := separated_length true _ nonempty
      simp only [List.length_map, behind, List.length_append] at this ⊢
      omega
    obtain ⟨last, closed, read⟩ := items_loop_reads (show nesting < depth + 1 by omega) reads 0 []
      bounded behind
    refine ⟨last.next, next_rest closed, ?_⟩
    rw [list, with_first here (by decide), if_pos rfl, enter, read]
    simp only [closing, closeList, peek_plain closed (by decide), List.reverse_nil,
      List.nil_append]

/-! ## Choices and optional values -/

/-- The name of a choice, written as a string. -/
theorem choice_reads {known : List (String × α)} {name : String} {value : α}
    (found : known.lookup name = some value) : Reads 0 (choice known) (encode (quote name)) value where
  opens := quote_opens name
  read := by
    intro depth c rest _ here _
    obtain ⟨quote, first, behind, after, left, read⟩ := quote_reads name here
    refine ⟨after, left, ?_⟩
    have peeked := peek_plain first (by decide)
    simp only [choice, peeked, textAs, with_first first (by decide), if_true, behind, read, bind,
      Except.bind, found]
    rfl

/-- A value that is not null. -/
theorem optional_reads {inner : Decoder α} {text : Bytes} {value : α}
    (reads : Reads nesting inner text value) (notNull : text.head? ≠ some 0x6E) :
    Reads nesting (optional inner) text (some value) where
  opens := reads.opens
  read := by
    intro depth c rest enough here ended
    obtain ⟨after, left, read⟩ := reads.read depth c rest enough here ended
    obtain ⟨b, more, rfl, plain, -⟩ := reads.opens
    refine ⟨after, left, ?_⟩
    rw [List.cons_append] at here
    have different : b ≠ 0x6E := fun same => notNull (congrArg some same)
    rw [optional, peek_plain here plain]
    split
    · rename_i same
      cases same
      exact absurd rfl different
    · rename_i same
      cases same
      simp only [read, bind, Except.bind]
      rfl

/-! ## Records -/

/-- A member of a written record: its name, the text of its value, and what reading it does to the
record. -/
structure Entry (σ : Type) where
  name : String
  text : String
  put : σ → σ

namespace Entry

def member (entry : Entry σ) : String × String := (entry.name, entry.text)

/-- The field of that name reads the value. -/
def Fits (nesting : Nat) (fields : List (Field σ)) (entry : Entry σ) : Prop :=
  ∃ field, fields.find? (·.name == entry.name) = some field ∧
    Reads nesting field.read (encode entry.text) entry.put

/-- The member whose value is put into the record by `set`. -/
def setting (name text : String) (set : α → σ → σ) (value : α) : Entry σ := ⟨name, text, set value⟩

/-- A member fits where its field reads values with the decoder that reads its text. -/
theorem setting_fits {fields : List (Field σ)} {field : Field σ} {name text : String}
    {decoder : Decoder α} {set : α → σ → σ} {value : α}
    (found : fields.find? (·.name == name) = some field)
    (reader : field.read = (Field.optional name decoder set).read)
    (reads : Reads nesting decoder (encode text) value) :
    (setting name text set value).Fits nesting fields := by
  refine ⟨field, found, reads.opens, fun depth c rest enough here ended => ?_⟩
  obtain ⟨after, left, read⟩ := reads.read depth c rest enough here ended
  refine ⟨after, left, ?_⟩
  simp only [reader, Field.optional, read, bind, Except.bind]
  rfl

end Entry

private theorem next_member_reads {first : Bool} {more : Bytes} (name : String)
    (here : c.rest = (if first then encode (quote name) else 0x2C :: encode (quote name)) ++ more) :
    ∃ after : Cursor, after.rest = more ∧ nextMember first c = .ok (some (name, after)) := by
  cases first with
  | true =>
    obtain ⟨quote, start, behind, after, left, read⟩ := quote_reads name here
    refine ⟨after, left, ?_⟩
    rw [nextMember, peek_plain start (by decide)]
    simp [behind, read, Except.map]
  | false =>
    simp only [Bool.false_eq_true, if_false, List.cons_append] at here
    obtain ⟨quote, start, behind, after, left, read⟩ := quote_reads name (next_rest here)
    refine ⟨after, left, ?_⟩
    rw [nextMember, peek_plain here (by decide)]
    simp [peek_plain start (by decide), behind, read, Except.map]

private theorem colon_reads (here : c.rest = 0x3A :: rest) : colon c = .ok c.next := by
  rw [colon, peek_plain here (by decide)]
  rfl

private theorem record_members_read {fields : List (Field σ)} {depth : Nat}
    (enough : nesting < depth) (other : Cursor → Except Stop (Option Value × Cursor))
    {entries : List (Entry σ)} (fits : ∀ entry ∈ entries, entry.Fits nesting fields)
    (distinct : (entries.map Entry.name).Nodup) (seen : List String)
    (fresh : ∀ entry ∈ entries, entry.name ∉ seen) (first : Bool) (record : σ) {bound : Nat}
    (bounded : entries.length < bound)
    (here : c.rest = separated first (entries.map fun entry => memberBytes entry.member) ++
      0x7D :: rest) :
    ∃ after : Cursor, after.rest = 0x7D :: rest ∧
      recordMembers fields depth other bound seen [] first record c =
        .ok ((entries.foldl (fun record entry => entry.put record) record,
          (entries.map Entry.name).reverse ++ seen, []), after) := by
  induction entries generalizing seen first record c bound with
  | nil =>
    obtain ⟨spare, rfl⟩ := Nat.exists_eq_add_of_lt bounded
    refine ⟨c, here, ?_⟩
    have close : nextMember first c = .ok none := by
      rw [nextMember, peek_plain here (by decide)]
      rfl
    rw [recordMembers, close]
    rfl
  | cons entry others ih =>
    obtain ⟨⟨field, found, reads⟩, fitsOthers⟩ := List.forall_mem_cons.mp fits
    obtain ⟨alone, distinctOthers⟩ := List.nodup_cons.mp distinct
    obtain ⟨unseen, freshOthers⟩ := List.forall_mem_cons.mp fresh
    obtain ⟨spare, rfl⟩ : ∃ spare, bound = spare + 1 := ⟨bound - 1, by omega⟩
    have parts : c.rest = (if first then encode (quote entry.name) else
          0x2C :: encode (quote entry.name)) ++ (0x3A :: (encode entry.text ++
            (separated false (others.map fun entry => memberBytes entry.member) ++
              0x7D :: rest))) := by
      rw [here]
      cases first <;> simp [separated, memberBytes, Entry.member]
    obtain ⟨atColon, left, name⟩ := next_member_reads entry.name parts
    obtain ⟨behind, ended, read⟩ := reads.read depth atColon.next _ enough (next_rest left)
      (ended_separated (.inr rfl) _)
    have freshNext : ∀ other ∈ others, other.name ∉ entry.name :: seen := by
      intro other member
      rw [List.mem_cons, not_or]
      exact ⟨fun same => alone (same ▸ List.mem_map_of_mem member), freshOthers other member⟩
    obtain ⟨after, closed, more⟩ := ih fitsOthers distinctOthers (entry.name :: seen) freshNext
      false (entry.put record) (Nat.lt_of_succ_lt_succ bounded) ended
    refine ⟨after, closed, ?_⟩
    have notSeen : seen.contains entry.name = false := by simpa using unseen
    rw [recordMembers, name]
    simp only [bind, Except.bind, found, notSeen, Bool.false_eq_true, if_false, colon_reads left,
      read, inside, more, List.foldl_cons, List.map_cons, List.reverse_cons, List.append_assoc,
      List.cons_append, List.nil_append]

/-- A written object is read as a record: every member goes to its field, in the order of the text,
and no required field may be missing. -/
theorem record_reads (shape : Shape σ) {entries : List (Entry σ)}
    (fits : ∀ entry ∈ entries, entry.Fits nesting shape.fields)
    (distinct : (entries.map Entry.name).Nodup)
    (complete : ∀ field ∈ shape.fields, field.isRequired → field.name ∈ entries.map Entry.name) :
    Reads (nesting + 1) (record shape) (encode (objectText (entries.map Entry.member)))
      (entries.foldl (fun record entry => entry.put record) shape.blank) where
  opens := ⟨0x7B, _, object_bytes _, by decide, by decide⟩
  read := by
    intro depth c rest enough here _
    obtain ⟨depth, rfl⟩ : ∃ spare, depth = spare + 2 := ⟨depth - 2, by omega⟩
    rw [object_bytes, List.map_map, List.cons_append, List.append_assoc, List.cons_append,
      List.nil_append] at here
    have behind := next_rest here
    have bounded : entries.length < c.next.rest.length + 1 := by
      have := separated_length true (entries.map fun entry => memberBytes entry.member) (by
        intro part member
        obtain ⟨entry, -, rfl⟩ := List.mem_map.mp member
        simp [memberBytes])
      rw [behind, List.length_append]
      rw [List.length_map] at this
      exact Nat.lt_succ_of_le (Nat.le_add_right_of_le this)
    obtain ⟨last, closed, read⟩ := record_members_read (show nesting < depth + 1 by omega)
      (fun c => c.skipValue.map fun c => (none, c)) fits distinct [] (by simp) true shape.blank
      bounded behind
    have required : checkRequired shape.fields ((entries.map Entry.name).reverse ++ []) last =
        .ok () := by
      have none_missing : shape.fields.find? (fun field => field.isRequired &&
          !((entries.map Entry.name).reverse ++ []).contains field.name) = none := by
        refine List.find?_eq_none.mpr fun field member => ?_
        have := complete field member
        simpa using this
      rw [checkRequired, none_missing]
    refine ⟨last.next, next_rest closed, ?_⟩
    rw [record, with_first here (by decide), if_pos rfl, enter]
    simp only [read, bind, Except.bind, required, pure, Except.pure, closing, closeObject,
      peek_plain closed (by decide)]

/-- So is an object with a member for each field, in the order of the fields. -/
theorem whole_record_reads (shape : Shape σ) {entries : List (Entry σ)}
    (fits : ∀ entry ∈ entries, entry.Fits nesting shape.fields)
    (names : entries.map Entry.name = shape.fields.map Field.name)
    (distinct : (shape.fields.map Field.name).Nodup) :
    Reads (nesting + 1) (record shape) (encode (objectText (entries.map Entry.member)))
      (entries.foldl (fun record entry => entry.put record) shape.blank) := by
  refine record_reads shape fits ?_ fun field member _ => ?_
  · rw [names]
    exact distinct
  · rw [names]
    exact List.mem_map_of_mem member

/-! ## Documents -/

theorem run_of_read {decoder : Decoder α} {document : Bytes} {value : α} {after : Cursor}
    (read : decoder depthLimit (start document) = .ok (value, after)) (ended : after.rest = []) :
    run decoder document = .ok value := by
  obtain ⟨behind, peeked⟩ : ∃ behind, after.peek = (none, behind) :=
    ⟨_, by rw [peek, skipBlanks, ended]; rfl⟩
  simp only [run, read, bind, Except.bind, peeked]
  rfl

/-- A written value alone is a document. -/
theorem document_reads {decoder : Decoder α} {text : Bytes} {value : α}
    (reads : Reads nesting decoder text value) (shallow : nesting < depthLimit) :
    run decoder text = .ok value := by
  have whole : (start text).rest = text ++ [] := (List.append_nil text).symm
  obtain ⟨after, ended, read⟩ := reads.read depthLimit (start text) [] shallow whole
    (fun _ member => absurd member (Option.not_mem_none _))
  exact run_of_read read ended

end Gatehouse.Json.Decoder
