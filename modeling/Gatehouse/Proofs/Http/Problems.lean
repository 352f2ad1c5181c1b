import Gatehouse.Problem
import Gatehouse.Proofs.Http.Fields
import Gatehouse.Proofs.Json.TreeValues
import Mathlib.Data.List.DropRight

/-!
What a client gets to see of a problem. The body is a document that says the kind and the message and
nothing else: a reader gets the message back as it was, whatever characters are in it, and the status
is told three times alike. What is behind a problem is not in the answer at all.
-/
namespace Gatehouse
open Json Utf8 Headers

/-- The number that a text ends with. -/
def endingNumber (text : String) : Nat :=
  Nat.ofDigitChars 10 (text.toList.rtakeWhile Char.isDigit) 0

private theorem ending_digits {front digits : List Char} {c : Char} (other : c.isDigit = false)
    (areDigits : ∀ digit ∈ digits, digit.isDigit = true) :
    ((front ++ [c]) ++ digits).rtakeWhile Char.isDigit = digits := by
  induction digits using List.reverseRecOn with
  | nil => simp [other]
  | append_singleton digits digit ih =>
    rw [List.forall_mem_append, List.forall_mem_singleton] at areDigits
    rw [← List.append_assoc, List.rtakeWhile_concat_pos _ _ _ areDigits.2, ih areDigits.1]

/-- A number is read back from the end of a text if no digit stands in front of it. -/
theorem ending_decimal {front : String} {chars : List Char} {c : Char}
    (shape : front.toList = chars ++ [c]) (other : c.isDigit = false) (n : Nat) :
    endingNumber (front ++ Numeral.decimal n) = n := by
  have areDigits : ∀ digit ∈ Nat.toDigits 10 n, digit.isDigit = true :=
    fun digit member => Nat.isDigit_of_mem_toDigits (by decide) (by decide) member
  rw [endingNumber, String.toList_append, shape, Numeral.decimal, Nat.toString_eq_ofList_toDigits,
    String.toList_ofList, ending_digits other areDigits, Nat.ofDigitChars_ten_toDigits]

namespace Problem

/-- The text that names the status in a body. -/
def statusAddress (problem : Problem) : String :=
  "https://httpstatuses.io/" ++ Numeral.decimal problem.kind.status

theorem status_address_ends (problem : Problem) :
    endingNumber problem.statusAddress = problem.kind.status := by
  have slash : "https://httpstatuses.io/".toList = "https://httpstatuses.io".toList ++ ['/'] := by
    decide
  exact ending_decimal slash (by decide) _

theorem body_tells (problem : Problem) (depth : Nat) :
    Tree.Tells (depth + 2) problem.body (.object [
      ("detail", .text problem.message), ("status", .number (.unsigned problem.kind.status)),
      ("title", .text problem.kind.title), ("type", .text problem.statusAddress)]) := by
  have small : problem.kind.status < 2 ^ 64 := by cases problem.kind <;> decide
  refine Tree.object_tells [
    (("detail", quote problem.message), .text problem.message),
    (("status", Numeral.decimal problem.kind.status), .number (.unsigned problem.kind.status)),
    (("title", quote problem.kind.title), .text problem.kind.title),
    (("type", quote problem.statusAddress), .text problem.statusAddress)] ?_
  simp only [List.forall_mem_cons]
  exact ⟨Tree.quote_tells depth _, Tree.decimal_tells depth small, Tree.quote_tells depth _,
    Tree.quote_tells depth _, by simp⟩

/-- The answer to a problem is a document with its message unchanged and its status three times
alike, of one media type, and does not depend on what is behind the problem. -/
theorem answered_faithfully (problem : Problem) :
    Decoder.run Decoder.anyValue problem.response.body = .ok (.object [
      ("detail", .text problem.message), ("status", .number (.unsigned problem.response.status)),
      ("title", .text problem.kind.title), ("type", .text problem.statusAddress)]) ∧
    problem.response.status = problem.kind.status ∧
    endingNumber problem.statusAddress = problem.response.status ∧
    problem.response.headers.getAll "content-type" = [encode "application/problem+json"] ∧
    ∀ source, { problem with source := source }.response = problem.response :=
  ⟨(problem.body_tells 126).document, rfl, problem.status_address_ends,
    getAll_set_self .empty "content-type" "application/problem+json", fun _ => rfl⟩

end Problem
end Gatehouse
