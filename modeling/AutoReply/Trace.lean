import AutoReply.Chat.Platform
import AutoReply.Journal

/-!
What happens outside the bot while it works on a message: the effects it tries, the host's
predicates it calls, the questions about the past it asks, and the journal it writes.
-/

namespace AutoReply

open AutoReply.Chat

structure Attempt where
  effect : Effect
  succeeded : Bool
  deriving DecidableEq

structure Trace where
  attempts : List Attempt := []
  calls : List String := []
  lookups : List (ChannelId × MessageId) := []
  journal : Journal := []
  deriving DecidableEq

namespace Trace

def append (earlier later : Trace) : Trace :=
  ⟨earlier.attempts ++ later.attempts, earlier.calls ++ later.calls,
    earlier.lookups ++ later.lookups, earlier.journal ++ later.journal⟩

instance : Append Trace := ⟨append⟩

def empty : Trace := {}

def ofEntry (entry : Entry) : Trace :=
  { journal := [entry] }

end Trace

/-- Tries one effect; a failure is kept and never retried. -/
def attempt (platform : Platform) (effect : Effect) : Trace × Option ApiError :=
  let failure := platform.failure? effect
  ({ attempts := [⟨effect, failure.isNone⟩] }, failure)

end AutoReply
