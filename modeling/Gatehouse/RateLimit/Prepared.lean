import Gatehouse.RateLimit.Counter

/-!
A store that answers from a list of prepared replies, in turn and from the start again, for
rehearsals of what a real store may do.
-/
namespace Gatehouse.RateLimit

/-- A reply and how long it takes. -/
structure PreparedReply where
  reply : Reply
  delay : Nanos
  deriving DecidableEq, Repr

/-- The replies still to come in this turn, and those of every turn. -/
structure PreparedStore where
  upcoming : List PreparedReply
  replies : List PreparedReply
  deriving DecidableEq, Repr

namespace PreparedStore

def ofReplies (replies : List PreparedReply) : PreparedStore := ⟨replies, replies⟩

/-- The next reply; without any, every increment fails. -/
def next (store : PreparedStore) : PreparedReply × PreparedStore :=
  match store.upcoming, store.replies with
  | reply :: rest, _ => (reply, { store with upcoming := rest })
  | [], reply :: rest => (reply, { store with upcoming := rest })
  | [], [] => (⟨.failed (.malformed "no reply prepared"), 0⟩, store)

end PreparedStore

instance : CounterStore PreparedStore where
  increment store _ _ _ :=
    let (reply, store) := store.next
    ⟨store, reply.reply, some reply.delay⟩

end Gatehouse.RateLimit
