import Gatehouse.RateLimit.Policy

/-!
The limiter section of the configuration. Every member other than the backend and the time limit of
the store names a scope; sections of unknown scopes are kept only to be warned about.
-/
namespace Gatehouse

/-- Where counters are kept. -/
inductive StoreBackend where
  | redis
  | postgres
  | memory
  deriving DecidableEq, Repr

namespace StoreBackend

def names : List (String × StoreBackend) :=
  [("redis", redis), ("postgres", postgres), ("memory", memory)]

def label : StoreBackend → String
  | redis => "redis"
  | postgres => "postgres"
  | memory => "memory"

end StoreBackend

open RateLimit

/-- Sections by the name of their scope, each name once. The time limit is in milliseconds. -/
structure LimitsConfig where
  backend : StoreBackend
  storeTimeout : Nat
  scopes : List (String × PolicyPatch)
  deriving DecidableEq, Repr

namespace LimitsConfig

def standard : LimitsConfig := ⟨.redis, 500, []⟩

/-- How long the store may take. -/
def timeout (config : LimitsConfig) : Nanos := config.storeTimeout * 1_000_000

/-- Puts a section into the list, in place of an earlier one of that name. -/
def putSection (name : String) (patch : PolicyPatch) :
    List (String × PolicyPatch) → List (String × PolicyPatch)
  | [] => [(name, patch)]
  | (known, old) :: rest =>
    if known = name then (known, patch) :: rest else (known, old) :: putSection name patch rest

/-- The sections of a document in order. -/
def readSections :
    List (String × Json.Value) → List (String × PolicyPatch) →
      Except Json.Cause (List (String × PolicyPatch))
  | [], sections => .ok sections
  | (name, value) :: rest, sections => do
    readSections rest (putSection name (← PolicyPatch.ofValue value) sections)

/-- The section with its unknown members as sections of scopes. -/
def withSections (config : LimitsConfig) (members : List (String × Json.Value)) :
    Except Json.Cause LimitsConfig := do
  return { config with scopes := ← readSections members [] }

open Json.Decoder in
def shape : Shape LimitsConfig where
  name := "RateLimitConfig"
  blank := standard
  shortLists := false
  fields := [
    .optional "backend" (choice StoreBackend.names) fun v c => { c with backend := v },
    .optional "store_timeout_ms" uint64 fun v c => { c with storeTimeout := v }]

/-- Reads the section. It is an object; a list of its fields would have no room for scopes. -/
def decoder : Json.Decoder LimitsConfig := Json.Decoder.openRecord shape withSections

/-- The policy of a scope: its section over its defaults. -/
def policy (config : LimitsConfig) (scope : Scope) : Policy :=
  match config.scopes.lookup scope.code with
  | some patch => patch.resolve (Policy.builtIn scope)
  | none => Policy.builtIn scope

/-- What is wrong with the sections that name no scope, in the order of the texts. -/
def unknownScopes (config : LimitsConfig) : List LimitError :=
  (config.scopes.filterMap fun (name, _) =>
    match Scope.ofCode name with
    | .error error => some error
    | .ok _ => none).mergeSort fun a b => decide (a.message ≤ b.message)

/-- The warnings about sections that name no scope. -/
def warnings (config : LimitsConfig) : List Event :=
  config.unknownScopes.map fun error =>
    ⟨.warn, "Ignoring rate limit configuration section", [("error", error.message)]⟩

end LimitsConfig
end Gatehouse
