import AutoReply.Pattern.Basic
import AutoReply.Rule.Cooldown
import AutoReply.Rule.Phrases
import AutoReply.Trace

/-!
Conditions on a message that has come in. A condition is checked from left to right and stops as
soon as its answer is known; what it did on the way is kept in a trace.
-/

namespace AutoReply.Rule

open AutoReply.Chat

inductive Trigger
  | phrases (phrases : Phrases)
  | pattern (pattern : Pattern)
  /-- The message mentions the user or, with `replies`, replies to a live message of theirs. -/
  | mentions (target : UserId) (replies : Bool)
  /-- The message just before was written by the user. -/
  | lastAuthor (target : UserId)
  | anyOf (children : List Trigger)
  | allOf (children : List Trigger)
  /-- Another condition, throttled by channel. -/
  | cooldown (throttle : Cooldown) (inner : Trigger)
  /-- A test that the host supplies. -/
  | predicate (name : String) (holds : Bot → MessageEvent → Bool)

/-- The answer of a check, what was checked with its new records, and what happened on the way. -/
structure Checked (α : Type) where
  matched : Bool
  next : α
  trace : Trace := {}

namespace Checked

variable {α β : Type}

def map (change : α → β) (checked : Checked α) : Checked β :=
  ⟨checked.matched, change checked.next, checked.trace⟩

end Checked

def lookupFailed (channel : ChannelId) (error : ApiError) : Entry :=
  { severity := .warning
    message := "History lookup failed, treating trigger as unmatched"
    fields := [("channel", .text (toString channel)), ("error", .text error.message)] }

def checkLastAuthor (platform : Platform) (event : MessageEvent) (target : UserId) : Bool × Trace :=
  let asked : Trace := { lookups := [(event.channel, event.id)] }
  match platform.precedingAuthor event.channel event.id with
  | .ok author => (author == some target, asked)
  | .error error => (false, asked ++ .ofEntry (lookupFailed event.channel error))

namespace Trigger

mutual

def check (platform : Platform) (event : MessageEvent) : Trigger → Checked Trigger
  | phrases list => ⟨list.isMatch event.text, phrases list, {}⟩
  | pattern regular => ⟨regular.isMatch event.text, pattern regular, {}⟩
  | mentions target replies =>
      ⟨event.mentionsUser target || (replies && event.replyAuthor == some target),
        mentions target replies, {}⟩
  | lastAuthor target =>
      let (matched, trace) := checkLastAuthor platform event target
      ⟨matched, lastAuthor target, trace⟩
  | anyOf children => (checkAny platform event children).map anyOf
  | allOf children => (checkAll platform event children).map allOf
  | cooldown throttle inner =>
      let checked := check platform event inner
      if checked.matched then
        let (fired, throttle) := throttle.tryFire event.channel event.time
        ⟨fired, cooldown throttle checked.next, checked.trace⟩
      else ⟨false, cooldown throttle checked.next, checked.trace⟩
  | predicate name holds =>
      ⟨holds platform.toBot event, predicate name holds, { calls := [name] }⟩

/-- Stops at the first child that matches; the children behind it are left as they are. -/
def checkAny (platform : Platform) (event : MessageEvent) : List Trigger → Checked (List Trigger)
  | [] => ⟨false, [], {}⟩
  | child :: children =>
      let first := check platform event child
      if first.matched then ⟨true, first.next :: children, first.trace⟩
      else
        let others := checkAny platform event children
        ⟨others.matched, first.next :: others.next, first.trace ++ others.trace⟩

def checkAll (platform : Platform) (event : MessageEvent) : List Trigger → Checked (List Trigger)
  | [] => ⟨true, [], {}⟩
  | child :: children =>
      let first := check platform event child
      if first.matched then
        let others := checkAll platform event children
        ⟨others.matched, first.next :: others.next, first.trace ++ others.trace⟩
      else ⟨false, first.next :: children, first.trace⟩

end

def containing (texts : List String) : Trigger :=
  phrases (.make texts true false)

def equalTo (texts : List String) : Trigger :=
  phrases (.make texts false false)

def throttled? (seconds : Int) (inner : Trigger) : Option Trigger :=
  (Cooldown.ofSeconds? seconds).map fun throttle => cooldown throttle inner

end Trigger

end AutoReply.Rule
