import AutoReply.Proofs.SortedMap
import AutoReply.Rule.Cooldown

/-!
One try of a cooldown. The slot that it may make is seen by no answer: it is filled at once, or was
there.
-/

namespace AutoReply.Rule.Cooldown

open AutoReply.Chat AutoReply.Time

variable (cooldown : Cooldown) (channel queried : ChannelId) (now : Timestamp)

def isOpen : Bool :=
  (cooldown.lastFired channel).all fun last => cooldown.window < now.nanosSince last

theorem isOpen_iff : cooldown.isOpen channel now = true ↔
    ∀ last, cooldown.lastFired channel = some last → cooldown.window < now.nanosSince last := by
  rw [isOpen]
  cases cooldown.lastFired channel <;> simp

theorem lastFired_record : (cooldown.record channel now).lastFired queried =
    if queried = channel then some now else cooldown.lastFired queried := by
  rw [lastFired, record, SortedMap.lookup_insert]
  split <;> rfl

theorem lookup_reserve : (cooldown.reserve channel).slots.lookup queried =
    if queried = channel then some (cooldown.lastFired channel)
    else cooldown.slots.lookup queried := by
  unfold reserve lastFired
  split
  next slot found => by_cases same : queried = channel <;> simp [same, found]
  next missing => simp [SortedMap.lookup_insert, missing]

@[simp] theorem lastFired_reserve :
    (cooldown.reserve channel).lastFired queried = cooldown.lastFired queried := by
  rw [lastFired, lookup_reserve]
  split
  next same => rw [same, Option.join_some]
  next => rfl

@[simp] theorem record_reserve :
    (cooldown.reserve channel).record channel now = cooldown.record channel now := by
  have sameWindow : (cooldown.reserve channel).window = cooldown.window := by
    unfold reserve
    split <;> rfl
  simp only [record, sameWindow, mk.injEq, true_and]
  refine SortedMap.ext_lookup fun queried => ?_
  simp only [SortedMap.lookup_insert, lookup_reserve]
  split <;> rfl

variable {cooldown channel} in
theorem reserve_of_fired {last : Timestamp} (fired : cooldown.lastFired channel = some last) :
    cooldown.reserve channel = cooldown := by
  have found : cooldown.slots.lookup channel = some (some last) := Option.join_eq_some_iff.mp fired
  simp [reserve, found]

/-- An open channel fires and is recorded; a try of any other changes nothing. -/
theorem tryFire_eq : cooldown.tryFire channel now =
    if cooldown.isOpen channel now then (true, cooldown.record channel now)
    else (false, cooldown) := by
  simp only [tryFire, lastFired_reserve, record_reserve]
  split
  next last fired =>
    rw [reserve_of_fired fired]
    by_cases early : now.nanosSince last ≤ cooldown.window
    · simp [isOpen, fired, early, Int.not_lt.mpr early]
    · simp [isOpen, fired, early, Int.not_le.mp early]
  next untried => simp [isOpen, untried]

end AutoReply.Rule.Cooldown
