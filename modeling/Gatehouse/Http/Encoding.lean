import Gatehouse.Http.Message
import Gatehouse.Text.Blank

/-!
Which encodings a client accepts. Only gzip is offered; what the client says about others is passed
over.
-/
namespace Gatehouse.Encoding

/-- A preference of up to three decimals, in thousandths. -/
def quality? (text : List Char) : Option Nat :=
  let decimals (whole : Nat) (digits : List Char) : Option Nat :=
    if 3 < digits.length then none
    else do
      let values ← digits.mapM Numeral.digitValue?
      let sum := (values.zip [100, 10, 1]).foldl (fun sum (digit, unit) => sum + digit * unit) whole
      if sum ≤ 1000 then some sum else none
  match text with
  | q :: '=' :: whole :: rest =>
    if q ≠ 'q' ∧ q ≠ 'Q' then none
    else
      let whole? : Option Nat :=
        if whole = '0' then some 0 else if whole = '1' then some 1000 else none
      whole?.bind fun whole =>
        match rest with
        | [] => some whole
        | '.' :: digits => decimals whole digits
        | _ => none
  | _ => none

/-- One entry of the field: whether it is for gzip or for no encoding, and its preference. -/
def offer? (text : List Char) : Option (Bool × Nat) := do
  let lower (s : List Char) : String :=
    String.ofList ((Blank.trimWhere Blank.isBlank s).map Char.toLower)
  let name := lower (text.takeWhile (· ≠ ';'))
  let gzip ← if name = "gzip" || name = "x-gzip" then some true
    else if name = "identity" then some false
    else none
  match text.dropWhile (· ≠ ';') with
  | [] => some (gzip, 1000)
  | _ :: parameter =>
    let quality ← quality? (Blank.trimWhere Blank.isBlank parameter)
    some (gzip, quality)

/-- The entries of a request that count for something. -/
def entries (headers : Headers) : List (Bool × Nat) :=
  (headers.getAll "accept-encoding").flatMap fun value =>
    match headerText? value with
    | none => []
    | some text =>
      (text.splitOn ",").filterMap fun part => (offer? part.toList).filter fun (_, q) => 0 < q

/-- Whether gzip is preferred; on a par with no encoding it wins. -/
def prefersGzip (headers : Headers) : Bool :=
  let best (gzip : Bool) : Nat :=
    ((entries headers).filter (·.1 == gzip)).foldl (fun best (_, q) => max best q) 0
  let gzip := best true
  0 < gzip && best false ≤ gzip

end Gatehouse.Encoding
