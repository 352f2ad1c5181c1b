import Gatehouse.Redis.Reply

/-!
Connections to Redis. A command gets one reply, or none at all; a connection that has once kept
silent answers nothing more, because replies come in the order of the commands.
-/
namespace Gatehouse.Redis

/-- A command: its name and its arguments. -/
abbrev Command := List String

/-- What carries commands to a server and brings a reply, if one comes. -/
class Transport (τ : Type) where
  ask : τ → Command → Option Reply × τ

/-- A connection that answers from a list of prepared replies, for rehearsals; `none` among them is
silence. When they are used up every command gets the last reply. It remembers the commands it
got. -/
structure PreparedConnection where
  upcoming : List (Option Reply)
  last : Reply
  silent : Bool
  sent : List Command

namespace PreparedConnection

def ofReplies (replies : List (Option Reply)) (last : Reply) : PreparedConnection :=
  ⟨replies, last, false, []⟩

/-- Sends one command. -/
def ask (connection : PreparedConnection) (command : Command) :
    Option Reply × PreparedConnection :=
  let sent := connection.sent ++ [command]
  if connection.silent then (none, { connection with sent })
  else
    match connection.upcoming with
    | [] => (some connection.last, { connection with sent })
    | some reply :: rest => (some reply, { connection with upcoming := rest, sent })
    | none :: rest => (none, { connection with upcoming := rest, silent := true, sent })

end PreparedConnection

instance : Transport PreparedConnection := ⟨PreparedConnection.ask⟩

variable {τ : Type} [Transport τ]

/-- Asks whether the server is there; its answer must be a text. -/
def ping (connection : τ) : Option (Except Failure Unit) × τ :=
  let (reply, connection) := Transport.ask connection ["PING"]
  (reply.map fun reply =>
    match reply.value with
    | .error error => .error (.server error)
    | .ok value =>
      match value.toText with
      | .ok _ => .ok ()
      | .error error => .error (.shape error), connection)

end Gatehouse.Redis
