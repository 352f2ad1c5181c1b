import Gatehouse.Json.Cursor
import Gatehouse.Proofs.Text.Utf8
import Mathlib.Tactic.SplitIfs

/-!
The bytes of JSON texts as they are written: strings with their escapes, lists and objects with a
comma before every part but the first.
-/
namespace Gatehouse.Json
open Utf8

/-! ## Strings -/

private theorem encode_quote_mark : encode "\"" = [0x22] := encode_of_list ['"']
private theorem encode_comma : encode "," = [0x2C] := encode_of_list [',']
private theorem encode_colon : encode ":" = [0x3A] := encode_of_list [':']
private theorem encode_open_list : encode "[" = [0x5B] := encode_of_list ['[']
private theorem encode_close_list : encode "]" = [0x5D] := encode_of_list [']']
private theorem encode_open_object : encode "\x7b" = [0x7B] := encode_of_list ['\x7b']
private theorem encode_close_object : encode "\x7d" = [0x7D] := encode_of_list ['\x7d']

/-- The bytes between the quotes of a string. -/
def escapedBytes (chars : List Char) : Bytes := chars.flatMap fun c => encode (escape c)

private theorem encode_join (texts : List String) :
    encode (String.join texts) = texts.flatMap encode := by
  induction texts with
  | nil => simp [encode_chars]
  | cons text rest ih => rw [String.join_cons, encode_append, ih, List.flatMap_cons]

theorem quote_bytes (text : String) :
    encode (quote text) = 0x22 :: (escapedBytes text.toList ++ [0x22]) := by
  rw [quote, encode_append, encode_append, encode_quote_mark, encode_join, List.flatMap_map]
  rfl

/-- How one character stands in a string: itself, if it is no quote, backslash or control character,
or one of the short escapes, or a hexadecimal escape. -/
theorem escape_bytes (c : Char) :
    (encode (escape c) = String.utf8EncodeChar c ∧ c ≠ '"' ∧ c ≠ '\\' ∧ 0x20 ≤ c.toNat) ∨
    (∃ letter, encode (escape c) = [0x5C, letter] ∧ (letter, c) ∈
      [(0x22, '"'), (0x5C, '\\'), (0x62, '\x08'), (0x66, '\x0c'), (0x6E, '\n'), (0x72, '\r'),
        (0x74, '\t')]) ∨
    (c.toNat < 0x20 ∧ encode (escape c) =
      0x5C :: 0x75 :: (Numeral.hexPadded 4 c.toNat).flatMap String.utf8EncodeChar) := by
  unfold escape
  split_ifs with quote backslash back feed line carriage tab control
  · exact .inr (.inl ⟨0x22, encode_of_list ['\\', '"'], by simp [quote]⟩)
  · exact .inr (.inl ⟨0x5C, encode_of_list ['\\', '\\'], by simp [backslash]⟩)
  · exact .inr (.inl ⟨0x62, encode_of_list ['\\', 'b'], by simp [back]⟩)
  · exact .inr (.inl ⟨0x66, encode_of_list ['\\', 'f'], by simp [feed]⟩)
  · exact .inr (.inl ⟨0x6E, encode_of_list ['\\', 'n'], by simp [line]⟩)
  · exact .inr (.inl ⟨0x72, encode_of_list ['\\', 'r'], by simp [carriage]⟩)
  · exact .inr (.inl ⟨0x74, encode_of_list ['\\', 't'], by simp [tab]⟩)
  · refine .inr (.inr ⟨control, ?_⟩)
    have mark : encode "\\u" = [0x5C, 0x75] := encode_of_list ['\\', 'u']
    rw [encode_append, mark, encode_of_list]
    rfl
  · refine .inl ⟨?_, quote, backslash, Nat.not_lt.mp control⟩
    exact encode_singleton c

/-! ## Lists and objects -/

/-- Parts one after the other, with a comma before each; `first` leaves out the first comma. -/
def separated (first : Bool) : List Bytes → Bytes
  | [] => []
  | part :: rest => (if first then part else 0x2C :: part) ++ separated false rest

private theorem encode_intercalate (texts : List String) :
    encode (",".intercalate texts) = separated true (texts.map encode) := by
  have tail : ∀ (text : String) (rest : List String), encode (",".intercalate (text :: rest)) =
      encode text ++ separated false (rest.map encode) := by
    intro text rest
    induction rest generalizing text with
    | nil => simp [separated]
    | cons next rest ih =>
      rw [String.intercalate_cons_cons, encode_append, encode_append, ih, encode_comma]
      simp [separated]
  cases texts with
  | nil => simp [separated, encode_chars]
  | cons text rest => exact tail text rest

theorem array_bytes (items : List String) :
    encode (array items) = 0x5B :: (separated true (items.map encode) ++ [0x5D]) := by
  rw [array, encode_append, encode_append, encode_intercalate, encode_open_list, encode_close_list]
  rfl

/-- A member of an object: its name, a colon, its value. -/
def memberBytes (member : String × String) : Bytes :=
  encode (quote member.1) ++ 0x3A :: encode member.2

theorem object_bytes (members : List (String × String)) :
    encode (objectText members) =
      0x7B :: (separated true (members.map memberBytes) ++ [0x7D]) := by
  have part (member : String × String) :
      encode (quote member.1 ++ ":" ++ member.2) = memberBytes member := by
    simp [memberBytes, encode_append, encode_colon]
  rw [objectText, encode_append, encode_append, encode_intercalate, encode_open_object,
    encode_close_object, List.map_map]
  have parts := List.map_congr_left (l := members) fun member _ => part member
  exact congrArg (fun parts => 0x7B :: (separated true parts ++ [0x7D])) parts

end Gatehouse.Json
