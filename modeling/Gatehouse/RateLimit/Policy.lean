import Gatehouse.Clock
import Gatehouse.Json.Decoder
import Gatehouse.RateLimit.Scope

/-!
Policies: how many requests a scope admits in a window, and how a configuration section overrides
the defaults of a scope.
-/
namespace Gatehouse.RateLimit

/-- A limit on requests in a window. Only an enabled policy is installed. -/
structure Policy where
  enabled : Bool
  limit : Nat
  window : Nanos
  deriving DecidableEq, Repr

namespace Policy

/-- An enabled policy with a window in seconds. -/
def ofSeconds (limit seconds : Nat) : Policy := ⟨true, limit, seconds * 1_000_000_000⟩

/-- The policy where nothing is said. -/
def standard : Policy := ofSeconds 100 60

/-- The same limits, not installed. -/
def disabled (policy : Policy) : Policy := { policy with enabled := false }

/-- The window in whole seconds, never less than one. -/
def windowSeconds (policy : Policy) : Nat := wholeSeconds policy.window

/-- The policy of a scope where the configuration says nothing. -/
def builtIn : Scope → Policy
  | .global => (ofSeconds 1000 60).disabled
  | .client => ofSeconds 100 60
  | .endpoint => (ofSeconds 50 60).disabled

end Policy

/-- A policy as written down: each member may be absent. The window is in seconds. -/
structure PolicyPatch where
  enabled : Option Bool
  requests : Option Nat
  window : Option Nat
  deriving DecidableEq, Repr

namespace PolicyPatch

def blank : PolicyPatch := ⟨none, none, none⟩

/-- Members that are present replace those of the defaults. -/
def resolve (patch : PolicyPatch) (defaults : Policy) : Policy :=
  ⟨patch.enabled.getD defaults.enabled,
    patch.requests.getD defaults.limit,
    (patch.window.map (· * 1_000_000_000)).getD defaults.window⟩

open Json Json.Decoder in
/-- The shape of a policy in a document of its own. -/
def shape : Shape PolicyPatch where
  name := "RateLimitPolicyConfig"
  blank := blank
  shortLists := false
  fields := [
    .optional "enabled" (Decoder.optional bool) fun v p => { p with enabled := v },
    .optional "requests" (Decoder.optional uint32) fun v p => { p with requests := v },
    .optional "window" (Decoder.optional uint64) fun v p => { p with window := v }]

/-- A member of a section that has been read as a plain value. -/
def flag (value : Json.Value) : Except Json.Cause (Option Bool) :=
  match value with
  | .null => .ok none
  | .bool b => .ok (some b)
  | other => .error (.wrongType other.found "a boolean")

/-- A number up to `limit` in a section that has been read as a plain value. -/
def amount (expected : String) (limit : Nat) (value : Json.Value) :
    Except Json.Cause (Option Nat) :=
  match value with
  | .null => .ok none
  | .number (.unsigned n) =>
    if n ≤ limit then .ok (some n) else .error (.wrongValue (.unsigned n) expected)
  | .number (.negative n) => .error (.wrongValue (.negative n) expected)
  | other => .error (.wrongType other.found expected)

/-- Puts one member of a section into a patch. Unknown members are passed over. -/
def put (patch : PolicyPatch) (name : String) (value : Json.Value) :
    Except Json.Cause PolicyPatch := do
  if name = "enabled" then return { patch with enabled := ← flag value }
  else if name = "requests" then return { patch with requests := ← amount "u32" 4294967295 value }
  else if name = "window" then
    return { patch with window := ← amount "u64" 18446744073709551615 value }
  else return patch

/-- The members of a section in order; one that occurs twice is a refusal. -/
def putAll : List (String × Json.Value) → List String → PolicyPatch → Except Json.Cause PolicyPatch
  | [], _, patch => .ok patch
  | (name, value) :: rest, seen, patch =>
    if seen.contains name && shape.fields.any (·.name == name) then .error (.duplicateField name)
    else do putAll rest (name :: seen) (← put patch name value)

/-- A section that has been read as a plain value. -/
def ofValue : Json.Value → Except Json.Cause PolicyPatch
  | .object members => putAll members [] blank
  | .list items => do
    let names := shape.fields.map (·.name)
    let patch ← putAll (names.zip items) [] blank
    if items.length < names.length then
      .error (.wrongLength items.length shape.expectedItems)
    else if names.length < items.length then
      .error (.wrongLength items.length
        (Numeral.decimal names.length ++ " elements in sequence"))
    else return patch
  | other => .error (.wrongType other.found ("struct " ++ shape.name))

end PolicyPatch
end Gatehouse.RateLimit
