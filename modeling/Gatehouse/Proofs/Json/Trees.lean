import Gatehouse.Proofs.Json.Reading
import Mathlib.Tactic.Choose

/-!
JSON documents by their grammar, apart from any reader. A tree is what a text says; many texts say
the same, since blanks may stand around every token. Strings are kept by their pieces and numbers by
their digits, so that a tree may hold what no reader has a value for.
-/
namespace Gatehouse.Json
open Cursor Utf8

inductive Tree where
  | null
  | bool (value : Bool)
  | number (text : Bytes)
  | text (pieces : List Piece)
  | list (items : List Tree)
  | object (members : List (List Piece × Tree))
  deriving Inhabited

/-- A string with its quotes. -/
def quoted (pieces : List Piece) : Bytes := 0x22 :: (piecesBytes pieces ++ [0x22])

/-- An item of a list as it stands in a text. -/
structure ItemSlot where
  before : Bytes
  tree : Tree
  text : Bytes
  behind : Bytes

namespace ItemSlot

def bytes (slot : ItemSlot) : Bytes := slot.before ++ (slot.text ++ slot.behind)

def IsSpaced (slot : ItemSlot) : Prop := IsGap slot.before ∧ IsGap slot.behind

end ItemSlot

/-- A member of an object as it stands in a text. -/
structure MemberSlot where
  before : Bytes
  name : List Piece
  behindName : Bytes
  beforeValue : Bytes
  tree : Tree
  text : Bytes
  behind : Bytes

namespace MemberSlot

def bytes (slot : MemberSlot) : Bytes :=
  slot.before ++ (quoted slot.name ++ (slot.behindName ++
    0x3A :: (slot.beforeValue ++ (slot.text ++ slot.behind))))

def member (slot : MemberSlot) : List Piece × Tree := (slot.name, slot.tree)

def IsSpaced (slot : MemberSlot) : Prop :=
  IsGap slot.before ∧ IsGap slot.behindName ∧ IsGap slot.beforeValue ∧ IsGap slot.behind

end MemberSlot

namespace Tree

/-- The texts of a tree, with no blanks around them. -/
inductive Writes : Tree → Bytes → Prop where
  | null : Writes .null [0x6E, 0x75, 0x6C, 0x6C]
  | yes : Writes (.bool true) [0x74, 0x72, 0x75, 0x65]
  | no : Writes (.bool false) [0x66, 0x61, 0x6C, 0x73, 0x65]
  | number {text : Bytes} (number : IsNumber text) : Writes (.number text) text
  | text {pieces : List Piece} (formed : ∀ piece ∈ pieces, piece.IsFormed) :
    Writes (.text pieces) (quoted pieces)
  | list {gap : Bytes} {slots : List ItemSlot} (blank : IsGap gap)
    (spaced : ∀ slot ∈ slots, slot.IsSpaced) (each : ∀ slot ∈ slots, Writes slot.tree slot.text) :
    Writes (.list (slots.map ItemSlot.tree))
      (0x5B :: (gap ++ (separated true (slots.map ItemSlot.bytes) ++ [0x5D])))
  | object {gap : Bytes} {slots : List MemberSlot} (blank : IsGap gap)
    (spaced : ∀ slot ∈ slots, slot.IsSpaced)
    (formed : ∀ slot ∈ slots, ∀ piece ∈ slot.name, piece.IsFormed)
    (each : ∀ slot ∈ slots, Writes slot.tree slot.text) :
    Writes (.object (slots.map MemberSlot.member))
      (0x7B :: (gap ++ (separated true (slots.map MemberSlot.bytes) ++ [0x7D])))

/-- A whole document: a value with blanks around it. -/
def WritesDocument (tree : Tree) (document : Bytes) : Prop :=
  ∃ before text behind, document = before ++ (text ++ behind) ∧ IsGap before ∧ IsGap behind ∧
    tree.Writes text

/-- A value alone is a document. -/
theorem Writes.document {tree : Tree} {text : Bytes} (writes : tree.Writes text) :
    tree.WritesDocument text :=
  ⟨[], text, [], by simp, by simp [IsGap], by simp [IsGap], writes⟩

/-- What holds of a list whenever it holds of its items, and of an object whenever it holds of its
values, holds of every tree. -/
theorem by_parts {holds : Tree → Prop} (null : holds .null) (bool : ∀ value, holds (.bool value))
    (number : ∀ numeral, holds (.number numeral)) (text : ∀ pieces, holds (.text pieces))
    (list : ∀ items, (∀ item ∈ items, holds item) → holds (.list items))
    (object : ∀ members, (∀ member ∈ members, holds member.2) → holds (.object members)) :
    ∀ tree, holds tree
  | .null => null
  | .bool value => bool value
  | .number numeral => number numeral
  | .text pieces => text pieces
  | .list items => list items fun item _ => by_parts null bool number text list object item
  | .object members => object members fun member held =>
    have := List.sizeOf_lt_of_mem held
    by_parts null bool number text list object member.2
termination_by tree => sizeOf tree
decreasing_by
  · have := List.sizeOf_lt_of_mem ‹_›
    simp
    omega
  · obtain ⟨name, value⟩ := member
    simp at this ⊢
    omega

/-! ## What a value says -/

/-- The text of a string. -/
def text? : Tree → Option String
  | .text pieces => spelled? pieces
  | _ => none

def bool? : Tree → Option Bool
  | .bool value => some value
  | _ => none

/-- The number of a numeral that is written with digits alone. -/
def nat? : Tree → Option Nat
  | .number numeral => natural? numeral
  | _ => none

/-- The values of the items of a list, if each has one. -/
def items? {α : Type} (read : Tree → Option α) : Tree → Option (List α)
  | .list items => items.mapM read
  | _ => none

def null? : Tree → Option Unit
  | .null => some ()
  | _ => none

/-- A value that may be null. -/
def orNull? {α : Type} (read : Tree → Option α) : Tree → Option (Option α)
  | .null => some none
  | tree => (read tree).map some

/-- A name, alone or as the only member of an object with nothing behind it. -/
def name? : Tree → Option String
  | .text pieces => spelled? pieces
  | .object [(pieces, .null)] => spelled? pieces
  | _ => none

/-- The value of the first member of that name. -/
def member? (name : String) : Tree → Option Tree
  | .object members =>
    (members.find? fun member => decide (spelled? member.1 = some name)).map Prod.snd
  | _ => none

/-- The value at a path of member names. -/
def at? (tree : Tree) : List String → Option Tree
  | [] => some tree
  | name :: path => (tree.member? name).bind fun value => value.at? path

theorem member_cons (member : List Piece × Tree) (members : List (List Piece × Tree)) (name : String) :
    (object (member :: members)).member? name =
      if spelled? member.1 = some name then some member.2
      else (object members).member? name := by
  by_cases same : spelled? member.1 = some name <;> simp [member?, same]

theorem member_held {tree : Tree} {members : List (List Piece × Tree)} {name : String}
    (present : (object members).member? name = some tree) :
    ∃ member ∈ members, spelled? member.1 = some name ∧ member.2 = tree := by
  obtain ⟨member, found, rfl⟩ := Option.map_eq_some_iff.mp present
  exact ⟨member, List.mem_of_find?_eq_some found, by simpa using List.find?_some found, rfl⟩

/-- An object that names no member twice. -/
def HasDistinctNames : Tree → Prop
  | .object members => (members.map fun member => spelled? member.1).Nodup
  | _ => False

instance (tree : Tree) : Decidable tree.HasDistinctNames :=
  match tree with
  | .object members => inferInstanceAs (Decidable (members.map fun member => spelled? member.1).Nodup)
  | .null | .bool _ | .number _ | .text _ | .list _ => .isFalse id

/-! ## A value in front of what is left to read -/

/-- What is left to read is blanks, a value of the tree, and `rest`. -/
def Stands (tree : Tree) (bytes rest : Bytes) : Prop :=
  ∃ gap text, bytes = gap ++ (text ++ rest) ∧ IsGap gap ∧ tree.Writes text ∧ Ended rest

/-- What is left to read is the rest of a list: its items, a comma in front of each but the first,
the closing bracket, and `rest`. -/
def ItemsStand (first : Bool) (items : List Tree) (bytes rest : Bytes) : Prop :=
  ∃ gap, ∃ slots : List ItemSlot,
    bytes = gap ++ (separated first (slots.map ItemSlot.bytes) ++ 0x5D :: rest) ∧
    slots.map ItemSlot.tree = items ∧ IsGap gap ∧ (∀ slot ∈ slots, slot.IsSpaced) ∧
    ∀ slot ∈ slots, slot.tree.Writes slot.text

/-- What is left to read is the rest of an object. -/
def MembersStand (first : Bool) (members : List (List Piece × Tree)) (bytes rest : Bytes) : Prop :=
  ∃ gap, ∃ slots : List MemberSlot,
    bytes = gap ++ (separated first (slots.map MemberSlot.bytes) ++ 0x7D :: rest) ∧
    slots.map MemberSlot.member = members ∧ IsGap gap ∧ (∀ slot ∈ slots, slot.IsSpaced) ∧
    (∀ slot ∈ slots, ∀ piece ∈ slot.name, piece.IsFormed) ∧
    ∀ slot ∈ slots, slot.tree.Writes slot.text

variable {tree : Tree} {bytes rest : Bytes} {first : Bool}

theorem ended_gap {gap : Bytes} (blank : IsGap gap) (ended : Ended rest) : Ended (gap ++ rest) := by
  cases gap with
  | nil => exact ended
  | cons b gap =>
    intro byte member
    cases member
    have := blank b List.mem_cons_self
    simp only [IsPlain, not_and_or, not_not] at this
    simp only [List.mem_cons]
    grind

theorem ended_nil : Ended [] := fun _ member => absurd member (Option.not_mem_none _)

theorem gap_append {front back : Bytes} (blankFront : IsGap front) (blankBack : IsGap back) :
    IsGap (front ++ back) := by
  rw [IsGap, List.forall_mem_append]
  exact ⟨blankFront, blankBack⟩

/-- The bytes that a value may start with. -/
def Leads : Tree → UInt8 → Prop
  | .null, b => b = 0x6E
  | .bool value, b => b = if value then 0x74 else 0x66
  | .number _, b => (b = 0x2D || isDigit b) = true
  | .text _, b => b = 0x22
  | .list _, b => b = 0x5B
  | .object _, b => b = 0x7B

/-- No value starts with a blank or with what closes a list. -/
theorem leads_opens {b : UInt8} (leads : tree.Leads b) : IsPlain b ∧ b ≠ 0x5D := by
  cases tree with
  | number text =>
    have notNumeric : ∀ other ∈ [0x20, 0x09, 0x0A, 0x0D, 0x5D],
        (other = 0x2D || isDigit other) = false := by decide +kernel
    have different : ∀ other ∈ [0x20, 0x09, 0x0A, 0x0D, 0x5D], b ≠ other := by
      rintro other member rfl
      exact Bool.false_ne_true ((notNumeric b member).symm.trans leads)
    simpa [IsPlain, and_assoc] using different
  | bool value =>
    obtain rfl : b = _ := leads
    cases value <;> decide
  | null | text | list | object =>
    obtain rfl : b = _ := leads
    decide

theorem Writes.starts {text : Bytes} (writes : tree.Writes text) :
    ∃ b more, text = b :: more ∧ tree.Leads b := by
  cases writes with
  | number number =>
    rcases number with ⟨whole, fraction, power, rfl, ⟨areDigits, b, more, rfl, -⟩, -⟩ |
      ⟨numeral, rfl, -⟩
    · refine ⟨b, _, rfl, ?_⟩
      have isDigit : isDigit b = true := areDigits b List.mem_cons_self
      simp [Leads, isDigit]
    · exact ⟨0x2D, numeral, rfl, by simp [Leads]⟩
  | null | yes | no | text | list | object => exact ⟨_, _, rfl, rfl⟩

/-- Blanks, and the first byte of the value. -/
theorem Stands.shape (stands : tree.Stands bytes rest) :
    ∃ gap b more, bytes = gap ++ b :: (more ++ rest) ∧ IsGap gap ∧ tree.Leads b ∧
      tree.Writes (b :: more) := by
  obtain ⟨gap, text, here, blank, writes, -⟩ := stands
  obtain ⟨b, more, rfl, leads⟩ := writes.starts
  exact ⟨gap, b, more, here, blank, leads, writes⟩

/-- The next byte behind blanks is the first of the value. -/
theorem Stands.peeked {c : Cursor} (stands : tree.Stands c.rest rest) :
    ∃ b more start, tree.Leads b ∧ c.peek = (some b, start) ∧ start.rest = b :: (more ++ rest) ∧
      tree.Writes (b :: more) ∧ start.rest.length ≤ c.rest.length := by
  obtain ⟨gap, b, more, here, blank, leads, writes⟩ := stands.shape
  obtain ⟨start, left, peeked⟩ := peek_gap blank (leads_opens leads).1 here
  exact ⟨b, more, start, leads, peeked, left, writes, by simp [left, here]⟩

/-- A value whose first byte comes next. -/
theorem Writes.stands {text : Bytes} (writes : tree.Writes text) (here : bytes = text ++ rest)
    (ended : Ended rest) : tree.Stands bytes rest :=
  ⟨[], text, here, by simp [IsGap], writes, ended⟩

theorem Stands.ended (stands : tree.Stands bytes rest) : Ended rest := by
  obtain ⟨-, -, -, -, -, ended⟩ := stands
  exact ended

/-! ## Lists and objects -/

theorem Writes.items {items : List Tree} {b : UInt8} {more : Bytes}
    (writes : (Tree.list items).Writes (b :: more)) (rest : Bytes) :
    ItemsStand true items (more ++ rest) rest := by
  cases writes with
  | list blank spaced each => exact ⟨_, _, by simp, rfl, blank, spaced, each⟩

theorem Writes.members {members : List (List Piece × Tree)} {b : UInt8} {more : Bytes}
    (writes : (Tree.object members).Writes (b :: more)) (rest : Bytes) :
    MembersStand true members (more ++ rest) rest := by
  cases writes with
  | object blank spaced formed each => exact ⟨_, _, by simp, rfl, blank, spaced, formed, each⟩

theorem items_end (stands : ItemsStand first [] bytes rest) :
    ∃ gap, bytes = gap ++ 0x5D :: rest ∧ IsGap gap := by
  obtain ⟨gap, slots, here, trees, blank, -⟩ := stands
  rw [List.map_eq_nil_iff] at trees
  subst trees
  exact ⟨gap, here, blank⟩

theorem members_end (stands : MembersStand first [] bytes rest) :
    ∃ gap, bytes = gap ++ 0x7D :: rest ∧ IsGap gap := by
  obtain ⟨gap, slots, here, trees, blank, -⟩ := stands
  rw [List.map_eq_nil_iff] at trees
  subst trees
  exact ⟨gap, here, blank⟩

/-- Where the next part of a list or an object starts: right here, or behind a comma. -/
def Separates (first : Bool) (bytes part : Bytes) : Prop :=
  if first then bytes = part else ∃ gap, bytes = gap ++ 0x2C :: part ∧ IsGap gap

private theorem separates {gap part behind : Bytes} {parts : List Bytes} (blank : IsGap gap)
    (here : bytes = gap ++ (separated first (part :: parts) ++ behind)) :
    ∃ gap' , IsGap gap' ∧
      Separates first bytes (gap' ++ (part ++ (separated false parts ++ behind))) := by
  cases first with
  | true => exact ⟨gap, blank, by simpa [Separates, separated] using here⟩
  | false =>
    refine ⟨[], by simp [IsGap], gap, ?_, blank⟩
    simpa [separated] using here

theorem items_next {items : List Tree} (stands : ItemsStand first (tree :: items) bytes rest) :
    ∃ part left, Separates first bytes part ∧ tree.Stands part left ∧
      ItemsStand false items left rest := by
  obtain ⟨gap, slots, here, trees, blank, spaced, each⟩ := stands
  obtain ⟨slot, slots, rfl, rfl, rfl⟩ := List.map_eq_cons_iff.mp trees
  obtain ⟨⟨blankBefore, blankBehind⟩, spaced⟩ := List.forall_mem_cons.mp spaced
  obtain ⟨writes, each⟩ := List.forall_mem_cons.mp each
  obtain ⟨lead, blankLead, here⟩ := separates blank here
  refine ⟨_, _, here, ⟨lead ++ slot.before, slot.text, ?_, gap_append blankLead blankBefore, writes, ?_⟩,
    ⟨slot.behind, slots, rfl, rfl, blankBehind, spaced, each⟩⟩
  · simp [ItemSlot.bytes]
  · exact ended_gap blankBehind (Decoder.ended_separated (.inl rfl) _)

theorem members_next {name : List Piece} {members : List (List Piece × Tree)}
    (stands : MembersStand first ((name, tree) :: members) bytes rest) :
    ∃ part gap behindName behindGap behindColon left, Separates first bytes part ∧
      part = gap ++ 0x22 :: (piecesBytes name ++ 0x22 :: behindName) ∧ IsGap gap ∧
      (∀ piece ∈ name, piece.IsFormed) ∧ behindName = behindGap ++ 0x3A :: behindColon ∧
      IsGap behindGap ∧ tree.Stands behindColon left ∧ MembersStand false members left rest := by
  obtain ⟨gap, slots, here, trees, blank, spaced, formed, each⟩ := stands
  obtain ⟨slot, slots, rfl, same, rfl⟩ := List.map_eq_cons_iff.mp trees
  cases same
  obtain ⟨⟨blankBefore, blankName, blankValue, blankBehind⟩, spaced⟩ := List.forall_mem_cons.mp spaced
  obtain ⟨formedName, formed⟩ := List.forall_mem_cons.mp formed
  obtain ⟨writes, each⟩ := List.forall_mem_cons.mp each
  obtain ⟨lead, blankLead, here⟩ := separates blank here
  refine ⟨_, lead ++ slot.before, _, slot.behindName, _, _, here, ?_,
    gap_append blankLead blankBefore, formedName, rfl, blankName,
    ⟨slot.beforeValue, slot.text, rfl, blankValue, writes, ?_⟩,
    ⟨slot.behind, slots, rfl, rfl, blankBehind, spaced, formed, each⟩⟩
  · simp [MemberSlot.bytes, quoted]
  · exact ended_gap blankBehind (Decoder.ended_separated (.inr rfl) _)

/-! ## Written values -/

theorem quote_tree (value : String) : ∃ pieces,
    (Tree.text pieces).Writes (encode (quote value)) ∧ spelled? pieces = some value := by
  obtain ⟨pieces, formed, bytes, spelled⟩ := quoted_pieces value
  refine ⟨pieces, ?_, spelled⟩
  rw [quote_bytes, ← bytes]
  exact .text formed

theorem signed_tree (n : Int) :
    (Tree.number (encode (Numeral.signed n))).Writes (encode (Numeral.signed n)) := by
  refine .number ?_
  rw [signed_bytes]
  split
  · exact .inr ⟨_, rfl, (digits_numeral _).1⟩
  · exact .inl (digits_numeral _).1

private theorem items_tree {items : List String}
    (each : ∀ item ∈ items, ∃ tree : Tree, tree.Writes (encode item)) :
    ∃ tree : Tree, tree.Writes (encode (array items)) := by
  have slots : ∃ slots : List ItemSlot, slots.map ItemSlot.bytes = items.map encode ∧
      (∀ slot ∈ slots, slot.IsSpaced) ∧ ∀ slot ∈ slots, slot.tree.Writes slot.text := by
    induction items with
    | nil => exact ⟨[], rfl, by simp, by simp⟩
    | cons item items ih =>
      obtain ⟨⟨tree, writes⟩, others⟩ := List.forall_mem_cons.mp each
      obtain ⟨slots, bytes, spaced, eachSlot⟩ := ih others
      refine ⟨⟨[], tree, encode item, []⟩ :: slots, by simp [ItemSlot.bytes, bytes],
        List.forall_mem_cons.mpr ⟨?_, spaced⟩, List.forall_mem_cons.mpr ⟨writes, eachSlot⟩⟩
      simp [ItemSlot.IsSpaced, IsGap]
  obtain ⟨slots, bytes, spaced, eachSlot⟩ := slots
  refine ⟨.list (slots.map ItemSlot.tree), ?_⟩
  rw [array_bytes, ← bytes]
  have blank : IsGap [] := by simp [IsGap]
  exact .list blank spaced eachSlot

/-- An object that was written, with the tree of each of its values. -/
theorem members_tree {members : List ((String × String) × Tree)}
    (each : ∀ member ∈ members, member.2.Writes (encode member.1.2)) :
    ∃ named : List (List Piece × Tree),
      (Tree.object named).Writes (encode (objectText (members.map Prod.fst))) ∧
      (named.map fun member => (spelled? member.1, member.2)) =
        members.map fun member => (some member.1.1, member.2) := by
  have slots : ∃ slots : List MemberSlot,
      slots.map MemberSlot.bytes = (members.map Prod.fst).map memberBytes ∧
      (∀ slot ∈ slots, slot.IsSpaced) ∧ (∀ slot ∈ slots, ∀ piece ∈ slot.name, piece.IsFormed) ∧
      (∀ slot ∈ slots, slot.tree.Writes slot.text) ∧
      (slots.map fun slot => (spelled? slot.name, slot.tree)) =
        members.map fun member => (some member.1.1, member.2) := by
    induction members with
    | nil => exact ⟨[], rfl, by simp, by simp, by simp, rfl⟩
    | cons member members ih =>
      obtain ⟨writes, others⟩ := List.forall_mem_cons.mp each
      obtain ⟨slots, bytes, spaced, formed, eachSlot, named⟩ := ih others
      obtain ⟨pieces, formedName, name, spelled⟩ := quoted_pieces member.1.1
      refine ⟨⟨[], pieces, [], [], member.2, encode member.1.2, []⟩ :: slots, ?_,
        List.forall_mem_cons.mpr ⟨?_, spaced⟩, List.forall_mem_cons.mpr ⟨formedName, formed⟩,
        List.forall_mem_cons.mpr ⟨writes, eachSlot⟩, by simp [named, spelled]⟩
      · rw [List.map_cons, List.map_cons, List.map_cons, ← bytes]
        simp [MemberSlot.bytes, memberBytes, quote_bytes, quoted, name]
      · simp [MemberSlot.IsSpaced, IsGap]
  obtain ⟨slots, bytes, spaced, formed, eachSlot, named⟩ := slots
  refine ⟨slots.map MemberSlot.member, ?_, by rw [List.map_map]; exact named⟩
  rw [object_bytes, ← bytes]
  have blank : IsGap [] := by simp [IsGap]
  exact .object blank spaced formed eachSlot

/-- An object with no blanks in it and names of plain letters, with its text. -/
def tight (members : List (String × Tree × Bytes)) : Tree × Bytes :=
  let slots : List MemberSlot :=
    members.map fun (name, tree, bytes) => ⟨[], (encode name).map .plain, [], [], tree, bytes, []⟩
  (.object (slots.map MemberSlot.member),
    0x7B :: (separated true (slots.map MemberSlot.bytes) ++ [0x7D]))

theorem tight_writes {members : List (String × Tree × Bytes)}
    (plain : ∀ member ∈ members, ∀ b ∈ encode member.1, IsPlainInString b)
    (each : ∀ member ∈ members, member.2.1.Writes member.2.2) :
    (tight members).1.Writes (tight members).2 := by
  have nothing : IsGap [] := by simp [IsGap]
  refine .object nothing ?_ ?_ ?_
  · exact List.forall_mem_map.mpr fun _ _ => ⟨nothing, nothing, nothing, nothing⟩
  · exact List.forall_mem_map.mpr fun member held => List.forall_mem_map.mpr (plain member held)
  · exact List.forall_mem_map.mpr each

/-- The texts that are put together from written strings, whole numbers, lists and objects. -/
inductive IsWritten : String → Prop where
  | text (value : String) : IsWritten (quote value)
  | number (n : Int) : IsWritten (Numeral.signed n)
  | list (items : List String) (written : ∀ item ∈ items, IsWritten item) : IsWritten (array items)
  | object (members : List (String × String)) (written : ∀ member ∈ members, IsWritten member.2) :
      IsWritten (objectText members)

theorem written_tree {text : String} (written : IsWritten text) :
    ∃ tree : Tree, tree.Writes (encode text) := by
  induction written with
  | text value =>
    obtain ⟨pieces, writes, -⟩ := quote_tree value
    exact ⟨_, writes⟩
  | number n => exact ⟨_, signed_tree n⟩
  | list items _ each => exact items_tree each
  | object members _ each =>
    choose! trees writes using each
    have eachPaired : ∀ pair ∈ members.map fun member => (member, trees member),
        pair.2.Writes (encode pair.1.2) := List.forall_mem_map.mpr writes
    obtain ⟨named, writesAll, -⟩ := members_tree eachPaired
    rw [List.map_map] at writesAll
    exact ⟨_, by simpa [Function.comp_def] using writesAll⟩

end Tree
end Gatehouse.Json
