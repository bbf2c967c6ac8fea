import AutoReply.Chat.Id
import AutoReply.SortedMap
import AutoReply.Time.Timestamp

/-!
Throttling by channel: a channel may fire again when more than a window of time has passed since it
fired last.
-/

namespace AutoReply.Rule

open AutoReply.Chat AutoReply.Time

/-- A window in nanoseconds, and a slot for each channel from its first try on. A slot is empty until
the channel fires. -/
structure Cooldown where
  window : Int
  slots : SortedMap ChannelId (Option Timestamp)

namespace Cooldown

def ofWindow (window : Int) : Cooldown :=
  ⟨window, .empty⟩

def maxSeconds : Nat := 9223372036854775

/-- There is no cooldown with a window of more seconds than that. -/
def ofSeconds? (seconds : Int) : Option Cooldown :=
  if seconds.natAbs ≤ maxSeconds then some (ofWindow (seconds * nanosInSecond)) else none

def lastFired (cooldown : Cooldown) (channel : ChannelId) : Option Timestamp :=
  (cooldown.slots.lookup channel).join

def trackedChannels (cooldown : Cooldown) : Nat :=
  cooldown.slots.size

/-- Gives the channel a slot if it has none. -/
def reserve (cooldown : Cooldown) (channel : ChannelId) : Cooldown :=
  match cooldown.slots.lookup channel with
  | some _ => cooldown
  | none => { cooldown with slots := cooldown.slots.insert channel none }

def record (cooldown : Cooldown) (channel : ChannelId) (now : Timestamp) : Cooldown :=
  { cooldown with slots := cooldown.slots.insert channel (some now) }

def tryFire (cooldown : Cooldown) (channel : ChannelId) (now : Timestamp) : Bool × Cooldown :=
  let reserved := cooldown.reserve channel
  match reserved.lastFired channel with
  | some last =>
      if now.nanosSince last ≤ cooldown.window then (false, reserved)
      else (true, reserved.record channel now)
  | none => (true, reserved.record channel now)

end Cooldown

end AutoReply.Rule
