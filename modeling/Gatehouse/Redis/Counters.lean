import Gatehouse.Digest.Sha1
import Gatehouse.RateLimit.Counter
import Gatehouse.Redis.Connection

/-!
Counters in Redis. One script creates or increments a bucket and reads it back; it is called by its
digest, and loaded first where the server does not know it.
-/
namespace Gatehouse.Redis.Counters

open RateLimit

/-- What the server runs: the first key is the bucket, the first argument the seconds of its window.
It returns the count and the seconds left. -/
def script : String :=
  "\nlocal key = KEYS[1]\nlocal window = tonumber(ARGV[1])\n\n" ++
  "local current = redis.call(\x27GET\x27, key)\nif current == false then\n" ++
  "    redis.call(\x27SET\x27, key, 1, \x27EX\x27, window)\n    return \x7b1, window\x7d\n" ++
  "end\n\n" ++
  "local count = redis.call(\x27INCR\x27, key)\nlocal ttl = redis.call(\x27TTL\x27, key)\n" ++
  "if ttl < 0 then\n    redis.call(\x27EXPIRE\x27, key, window)\n    ttl = window\nend\n\n" ++
  "return \x7bcount, ttl\x7d\n"

/-- The digest the script is called by. -/
def scriptDigest : String := Sha1.hex (Utf8.encode script)

/-- Calls the script. -/
def call (key : String) (seconds : Nat) : Command :=
  ["EVALSHA", scriptDigest, "1", key, Numeral.decimal seconds]

/-- Loads the script. -/
def load : Command := ["SCRIPT", "LOAD", script]

/-- What an increment got: a reply, or the refusal of the script; no answer at all is `none`. -/
abbrev Outcome := Option (Except ServerError Reply)

variable {τ : Type} [Transport τ]

/-- Calls the script, and once more after loading it where the server does not know it. -/
def run (connection : τ) (key : String) (seconds : Nat) : Outcome × τ :=
  let (first, connection) := Transport.ask connection (call key seconds)
  if (first.bind Reply.error?).any ServerError.isUnknownScript then
    let (loaded, connection) := Transport.ask connection load
    match loaded with
    | none => (none, connection)
    | some loaded =>
      match loaded.error? with
      | some error => (some (.error error), connection)
      | none =>
        let (second, connection) := Transport.ask connection (call key seconds)
        (second.map .ok, connection)
  else (first.map .ok, connection)

/-- A list of numbers in diagnostics. -/
def describeInts (values : List Int) : String :=
  "[" ++ ", ".intercalate (values.map Numeral.signed) ++ "]"

/-- The snapshot in a reply: exactly two numbers. -/
def snapshot (reply : Reply) : Except LimitError Snapshot :=
  match reply.value with
  | .error error => .error (.redis error.message)
  | .ok value =>
    match value.toInts with
    | .ok [count, secondsLeft] => .ok ⟨count, secondsLeft⟩
    | .ok values => .error (.malformed (describeInts values))
    | .error error => .error (.malformed error.message)

/-- How an increment ends. -/
def conclude : Except ServerError Reply → RateLimit.Reply
  | .error error => .failed (.redis error.message)
  | .ok reply =>
    match snapshot reply with
    | .ok snapshot => .snapshot snapshot
    | .error error => .failed error

/-- Counts one request. Replies come at once or never. -/
def increment (connection : τ) (key : String) (seconds : Nat) : Attempt τ :=
  match run connection key seconds with
  | (some outcome, connection) => ⟨connection, conclude outcome, some 0⟩
  | (none, connection) => ⟨connection, .failed (.redis "no reply"), none⟩

instance : CounterStore PreparedConnection where
  increment connection _ key seconds := increment connection key seconds

/-- What the store shows of itself in diagnostics. -/
def description : String := "RedisCounterStore \x7b .. \x7d"

end Gatehouse.Redis.Counters
