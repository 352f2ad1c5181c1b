import Gatehouse.Service.World

/-!
Fields that every answer carries to keep browsers from guessing, framing and leaking.
-/
namespace Gatehouse.Hardening

/-- The fields and their values. -/
def fields : List (String × String) := [
  ("x-content-type-options", "nosniff"),
  ("x-frame-options", "DENY"),
  ("x-xss-protection", "1; mode=block"),
  ("strict-transport-security", "max-age=31536000; includeSubDomains"),
  ("referrer-policy", "strict-origin-when-cross-origin"),
  ("x-dns-prefetch-control", "off"),
  ("permissions-policy", "geolocation=(), microphone=(), camera=()")]

/-- Adds the fields that an answer does not have. -/
def harden (headers : Headers) : Headers :=
  fields.foldl (fun headers (name, value) => headers.default name value) headers

/-- Hardens what a handler answers. -/
def layer {σ : Type} : Layer σ := fun next request => do
  let response ← next request
  return response.mapHeaders harden

end Gatehouse.Hardening
