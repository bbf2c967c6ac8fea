import Mathlib.Data.List.Dedup
import Mathlib.Data.List.Induction
import AutoReply.Proofs.Rule.Cooldown

/-!
Cooldowns, tried in many channels at once. Channels do not see each other: each of them is answered
as if the others were not there.
-/

namespace AutoReply.Rule

open AutoReply.Chat AutoReply.Time

structure Try where
  channel : ChannelId
  time : Timestamp
  deriving DecidableEq

namespace Cooldown

variable {cooldown other : Cooldown} {channel : ChannelId} {call : Try}

def answer (cooldown : Cooldown) (call : Try) : Bool :=
  (cooldown.tryFire call.channel call.time).1

def next (cooldown : Cooldown) (call : Try) : Cooldown :=
  (cooldown.tryFire call.channel call.time).2

def after (cooldown : Cooldown) (tries : List Try) : Cooldown :=
  tries.foldl next cooldown

def answered (cooldown : Cooldown) : List Try → List (Try × Bool)
  | [] => []
  | call :: later => (call, cooldown.answer call) :: (cooldown.next call).answered later

/-- The times of those tries of a channel that were answered with true. -/
def firings (cooldown : Cooldown) (channel : ChannelId) (tries : List Try) : List Timestamp :=
  ((cooldown.answered tries).filter fun given => given.1.channel = channel ∧ given.2 = true).map
    fun given => given.1.time

theorem answer_eq (cooldown : Cooldown) (call : Try) :
    cooldown.answer call = cooldown.isOpen call.channel call.time := by
  rw [answer, tryFire_eq]
  split
  next isOpen => exact isOpen.symm
  next closed => exact (Bool.eq_false_iff.mpr closed).symm

theorem next_of_answer (answered : cooldown.answer call = true) :
    cooldown.next call = cooldown.record call.channel call.time := by
  rw [answer_eq] at answered
  rw [next, tryFire_eq, if_pos answered]

theorem next_of_refused (refused : cooldown.answer call = false) : cooldown.next call = cooldown := by
  rw [answer_eq] at refused
  rw [next, tryFire_eq, if_neg (Bool.eq_false_iff.mp refused)]

theorem exists_fired_of_refused (refused : cooldown.answer call = false) :
    ∃ last, cooldown.lastFired call.channel = some last := by
  rw [← Option.ne_none_iff_exists']
  intro untried
  simp [answer_eq, isOpen, untried] at refused

@[simp] theorem window_next (cooldown : Cooldown) (call : Try) :
    (cooldown.next call).window = cooldown.window := by
  cases given : cooldown.answer call with
  | false => rw [next_of_refused given]
  | true => rw [next_of_answer given, record]

theorem lastFired_next (cooldown : Cooldown) (call : Try) (channel : ChannelId) :
    (cooldown.next call).lastFired channel =
      if call.channel = channel ∧ cooldown.answer call = true then some call.time
      else cooldown.lastFired channel := by
  cases given : cooldown.answer call with
  | false => simp [next_of_refused given]
  | true =>
      rw [next_of_answer given, lastFired_record]
      by_cases same : call.channel = channel
      · simp [same]
      · simp [same, Ne.symm same]

theorem lastFired_next_eq_none_iff : (cooldown.next call).lastFired channel = none ↔
    call.channel ≠ channel ∧ cooldown.lastFired channel = none := by
  rw [lastFired_next]
  cases given : cooldown.answer call with
  | false =>
      obtain ⟨last, fired⟩ := exists_fired_of_refused given
      by_cases same : call.channel = channel
      · simp [← same, fired]
      · simp [same]
  | true => by_cases same : call.channel = channel <;> simp [same]

theorem mem_keys_next : channel ∈ (cooldown.next call).slots.keys ↔
    channel ∈ cooldown.slots.keys ∨ channel = call.channel := by
  simp only [SortedMap.mem_keys_iff]
  cases given : cooldown.answer call with
  | false =>
      rw [next_of_refused given]
      obtain ⟨last, fired⟩ := exists_fired_of_refused given
      have found := Option.join_eq_some_iff.mp fired
      by_cases same : channel = call.channel <;> simp [same, found]
  | true =>
      rw [next_of_answer given, record, SortedMap.lookup_insert]
      by_cases same : channel = call.channel <;> simp [same]

/-! Runs of tries. -/

theorem after_concat (cooldown : Cooldown) (tries : List Try) (call : Try) :
    cooldown.after (tries ++ [call]) = (cooldown.after tries).next call := by
  simp [after]

@[simp] theorem window_after (cooldown : Cooldown) (tries : List Try) :
    (cooldown.after tries).window = cooldown.window := by
  induction tries generalizing cooldown with
  | nil => rfl
  | cons call later ih => exact (ih (cooldown.next call)).trans (window_next cooldown call)

theorem answered_append (cooldown : Cooldown) (tries later : List Try) :
    cooldown.answered (tries ++ later) =
      cooldown.answered tries ++ (cooldown.after tries).answered later := by
  induction tries generalizing cooldown with
  | nil => rfl
  | cons call tries ih => simp [answered, after, ih]

theorem firings_concat (cooldown : Cooldown) (channel : ChannelId) (tries : List Try) (call : Try) :
    cooldown.firings channel (tries ++ [call]) =
      cooldown.firings channel tries ++
        if call.channel = channel ∧ (cooldown.after tries).answer call = true then [call.time]
        else [] := by
  simp only [firings, answered_append, answered, List.filter_append, List.map_append]
  congr 1
  split
  next fired => simp [fired]
  next quiet => simp [quiet]

theorem lastFired_after (window : Int) (channel : ChannelId) (tries : List Try) :
    ((ofWindow window).after tries).lastFired channel =
      ((ofWindow window).firings channel tries).getLast? := by
  induction tries using List.reverseRecOn with
  | nil => rfl
  | append_singleton tries call ih =>
      rw [after_concat, lastFired_next, firings_concat]
      split
      next fired => simp
      next quiet => simp [ih]

theorem lastFired_after_eq_none_iff (window : Int) (channel : ChannelId) (tries : List Try) :
    ((ofWindow window).after tries).lastFired channel = none ↔
      ∀ call ∈ tries, call.channel ≠ channel := by
  induction tries using List.reverseRecOn with
  | nil => simp [after, ofWindow, lastFired]
  | append_singleton tries call ih =>
      rw [after_concat, lastFired_next_eq_none_iff, ih, List.forall_mem_append,
        List.forall_mem_singleton, and_comm]

theorem mem_keys_after (window : Int) (channel : ChannelId) (tries : List Try) :
    channel ∈ ((ofWindow window).after tries).slots.keys ↔ channel ∈ tries.map Try.channel := by
  induction tries using List.reverseRecOn with
  | nil => simp [after, ofWindow, SortedMap.keys, SortedMap.empty]
  | append_singleton tries call ih =>
      rw [after_concat, mem_keys_next, ih, List.map_append, List.mem_append, List.map_singleton,
        List.mem_singleton]

theorem trackedChannels_after (window : Int) (tries : List Try) :
    ((ofWindow window).after tries).trackedChannels = (tries.map Try.channel).dedup.length := by
  have perm : ((ofWindow window).after tries).slots.keys.Perm (tries.map Try.channel).dedup :=
    (List.perm_ext_iff_of_nodup (SortedMap.nodup_keys _) (List.nodup_dedup _)).mpr fun channel =>
      (mem_keys_after window channel tries).trans List.mem_dedup.symm
  rw [← perm.length_eq, trackedChannels, SortedMap.size, SortedMap.keys, List.length_map]

theorem filter_answered (sameWindow : cooldown.window = other.window)
    (sameRecord : cooldown.lastFired channel = other.lastFired channel) (tries : List Try) :
    (cooldown.answered tries).filter (fun given => given.1.channel = channel) =
      other.answered (tries.filter fun call => call.channel = channel) := by
  induction tries generalizing cooldown other with
  | nil => rfl
  | cons call later ih =>
      by_cases same : call.channel = channel
      · have sameAnswer : cooldown.answer call = other.answer call := by
          simp only [answer_eq, isOpen, same, sameWindow, sameRecord]
        have sameNext : (cooldown.next call).lastFired channel =
            (other.next call).lastFired channel := by
          rw [lastFired_next, lastFired_next, sameAnswer, sameRecord]
        simp only [answered, List.filter_cons, same, decide_true, if_true, sameAnswer]
        rw [ih (by simpa using sameWindow) sameNext]
      · simp only [answered, List.filter_cons, same, decide_false, Bool.false_eq_true, if_false]
        exact ih (by simpa using sameWindow) (by simpa [lastFired_next, same] using sameRecord)

end Cooldown

open Cooldown in
/-- Channels tried in any order, at any times: every channel is answered as if it were alone, the
records are those of its firings, and it fires when it is new or more than a window behind them. -/
theorem channels_isolated (window : Int) (tries : List Try) :
    let cooldown := (ofWindow window).after tries
    (∀ channel, ((ofWindow window).answered tries).filter (fun given => given.1.channel = channel) =
        (ofWindow window).answered (tries.filter fun call => call.channel = channel)) ∧
      (∀ channel, cooldown.lastFired channel = ((ofWindow window).firings channel tries).getLast? ∧
        (cooldown.lastFired channel = none ↔ ∀ call ∈ tries, call.channel ≠ channel)) ∧
      cooldown.trackedChannels = (tries.map Try.channel).dedup.length ∧
      ∀ call later,
        (ofWindow window).answered (tries ++ call :: later) =
            (ofWindow window).answered tries ++ (call, cooldown.answer call) ::
              (cooldown.next call).answered later ∧
          (cooldown.answer call = false → cooldown.next call = cooldown) ∧
          (cooldown.answer call = true ↔ (∀ earlier ∈ tries, earlier.channel ≠ call.channel) ∨
            ∃ last, ((ofWindow window).firings call.channel tries).getLast? = some last ∧
              window < call.time.nanosSince last) := by
  intro cooldown
  refine ⟨fun channel => filter_answered rfl rfl tries,
    fun channel => ⟨lastFired_after window channel tries,
      lastFired_after_eq_none_iff window channel tries⟩,
    trackedChannels_after window tries, fun call later => ⟨?_, next_of_refused, ?_⟩⟩
  · rw [answered_append, answered]
  · rw [answer_eq, isOpen_iff, window_after, ← lastFired_after, ← lastFired_after_eq_none_iff window]
    cases cooldown.lastFired call.channel <;> simp [ofWindow]

example : ((Cooldown.ofWindow (5 * nanosInSecond)).answered
    [⟨⟨1⟩, ⟨10, 0⟩⟩, ⟨⟨2⟩, ⟨11, 0⟩⟩, ⟨⟨1⟩, ⟨15, 0⟩⟩, ⟨⟨1⟩, ⟨15, 1⟩⟩, ⟨⟨2⟩, ⟨3, 0⟩⟩]).map Prod.snd =
      [true, true, false, true, false] := by
  decide

end AutoReply.Rule
