import AutoReply.Proofs.Dispatch.FirstMatch
import AutoReply.Proofs.Registry.Settings
import AutoReply.Proofs.Rule.Cooldown

/-!
Throttling over whole runs. Whatever else happens to the rules, two firings of a throttled rule in
one channel lie more than its window apart.
-/

namespace AutoReply

open AutoReply.Chat AutoReply.Rule AutoReply.Time

namespace Time.Timestamp

def instant (time : Timestamp) : Int :=
  time.seconds * nanosInSecond + time.nanos

theorem nanosSince_eq_instant {earlier later : Timestamp} (earlierPlain : earlier.isLeap = false)
    (laterPlain : later.isLeap = false) :
    later.nanosSince earlier = later.instant - earlier.instant := by
  simp only [nanosSince, leapBetween, earlierPlain, laterPlain, Bool.and_false, Bool.false_eq_true,
    if_false, Int.add_zero, instant, Int.sub_mul]
  omega

end Time.Timestamp

inductive Change
  | state (name state : String)
  | enabled (name : String) (enabled : Bool)
  | allStates (state : String)
  | allEnabled (enabled : Bool)
  | manyStates (states : HashMap String String)
  | manyEnabled (flags : HashMap String Bool)
  | restore (saved : SavedState)

def Change.apply (registry : Registry) : Change → Registry
  | state name value => (registry.setState name value).toOption.getD registry
  | enabled name flag => (registry.setEnabled name flag).toOption.getD registry
  | allStates value => (registry.setAllStates value).1
  | allEnabled flag => registry.setAllEnabled flag
  | manyStates states => (registry.bulkSetStates states).1
  | manyEnabled flags => (registry.bulkSetEnabled flags).1
  | restore saved => (saved.apply registry).registry

theorem Change.retuned (registry : Registry) (change : Change) :
    Registry.Retuned registry (change.apply registry) := by
  cases change with
  | state name value =>
      simp only [apply]
      cases result : registry.setState name value with
      | error error => exact Registry.Retuned.refl registry
      | ok next => exact Registry.retuned_setState result
  | enabled name flag =>
      simp only [apply]
      cases result : registry.setEnabled name flag with
      | error error => exact Registry.Retuned.refl registry
      | ok next => exact Registry.retuned_setEnabled result
  | allStates value => exact Registry.retuned_setAllStates registry value
  | allEnabled flag => exact Registry.retuned_setAllEnabled registry flag
  | manyStates states => exact Registry.retuned_bulkSetStates registry states
  | manyEnabled flags => exact Registry.retuned_bulkSetEnabled registry flags
  | restore saved => exact SavedState.retuned_apply saved registry

/-- What happens to the rules while the bot runs: a message is dispatched, one rule is checked on a
message, or settings change. -/
inductive Occurrence
  | dispatch (platform : Platform) (luck : Luck) (event : MessageEvent)
  | check (platform : Platform) (event : MessageEvent) (position : Nat)
  | settings (change : Change)

namespace Occurrence

def message? : Occurrence → Option (Platform × MessageEvent)
  | dispatch platform _ event => some (platform, event)
  | check platform event _ => some (platform, event)
  | settings _ => none

def next (registry : Registry) : Occurrence → Registry
  | dispatch platform luck event => (AutoReply.dispatch platform luck event registry).registry
  | check platform event position =>
      ⟨registry.responses.modify position fun response => (response.check platform event).next⟩
  | settings change => change.apply registry

end Occurrence

def selected (platform : Platform) (event : MessageEvent) (registry : Registry) : Option Nat :=
  registry.responses.findIdx? fun response => (response.check platform event).matched

theorem selected_eq_some_iff (platform : Platform) (event : MessageEvent) (registry : Registry)
    (position : Nat) :
    selected platform event registry = some position ↔
      FirstHolding platform event registry position := by
  simp only [selected, List.findIdx?_eq_some_iff_getElem, FirstHolding, holdsAt_iff]
  constructor
  · rintro ⟨inside, matched, before⟩
    refine ⟨⟨_, List.getElem?_eq_getElem inside, matched⟩, ?_⟩
    rintro earlier below ⟨response, found, holds⟩
    rw [List.getElem?_eq_getElem (by omega), Option.some.injEq] at found
    exact before earlier below (found ▸ holds)
  · rintro ⟨⟨response, found, matched⟩, before⟩
    obtain ⟨inside, same⟩ := List.getElem?_eq_some_iff.mp found
    refine ⟨inside, same ▸ matched, fun earlier below holds => ?_⟩
    exact before earlier below ⟨_, List.getElem?_eq_getElem (by omega), holds⟩

def fired (position : Nat) (registry : Registry) : Occurrence → Option MessageEvent
  | .dispatch platform _ event =>
      if selected platform event registry = some position then some event else none
  | .check platform event checked =>
      if checked = position ∧ (registry.responses[checked]?.any fun response =>
        (response.check platform event).matched) then some event else none
  | .settings _ => none

def runRules : List Occurrence → Registry → Registry
  | [], registry => registry
  | occurrence :: later, registry => runRules later (occurrence.next registry)

def firings (position : Nat) : List Occurrence → Registry → List MessageEvent
  | [], _ => []
  | occurrence :: later, registry =>
      (fired position registry occurrence).toList ++
        firings position later (occurrence.next registry)

def Registry.throttle? (registry : Registry) (position : Nat) : Option Cooldown :=
  match registry.responses[position]?.map Response.trigger with
  | some (.cooldown throttle _) => some throttle
  | _ => none

theorem throttle?_eq_some_iff (registry : Registry) (position : Nat) (throttle : Cooldown) :
    registry.throttle? position = some throttle ↔ ∃ response inner,
      registry.responses[position]? = some response ∧
        response.trigger = .cooldown throttle inner := by
  unfold Registry.throttle?
  cases found : registry.responses[position]? with
  | none => simp
  | some response => cases trigger : response.trigger <;> simp [trigger]

def recordFiring (throttle : Cooldown) (event : MessageEvent) : Cooldown :=
  throttle.record event.channel event.time

@[simp] theorem window_recordFiring (throttle : Cooldown) (event : MessageEvent) :
    (recordFiring throttle event).window = throttle.window := rfl

theorem lastFired_recordFiring (throttle : Cooldown) (event : MessageEvent) (channel : ChannelId) :
    (recordFiring throttle event).lastFired channel =
      if channel = event.channel then some event.time else throttle.lastFired channel :=
  throttle.lastFired_record event.channel channel event.time

theorem check_throttled {response : Response} {throttle : Cooldown} {inner : Trigger}
    (throttled : response.trigger = .cooldown throttle inner) (platform : Platform)
    (event : MessageEvent) :
    ((response.check platform event).matched = true →
        throttle.isOpen event.channel event.time = true ∧
          (inner.check platform event).matched = true) ∧
      ∃ nextInner, (response.check platform event).next.trigger =
        .cooldown (if (response.check platform event).matched then recordFiring throttle event
          else throttle) nextInner := by
  cases enabled : response.enabled with
  | false =>
      rw [Response.check_of_disabled platform event response enabled]
      exact ⟨by simp, inner, by simpa using throttled⟩
  | true =>
      rw [Response.check_of_enabled platform event response enabled, throttled]
      simp only [Trigger.check, Checked.map]
      cases matched : (inner.check platform event).matched with
      | false => simp
      | true =>
          simp only [if_true, Cooldown.tryFire_eq]
          cases isOpen : throttle.isOpen event.channel event.time with
          | false => simp
          | true => simp [recordFiring]

theorem selected_iff_matched {platform : Platform} {event : MessageEvent} {registry : Registry}
    {position : Nat} {response : Response} (found : registry.responses[position]? = some response)
    (reached : ∀ earlier < position, ¬ HoldsAt platform event registry earlier) :
    selected platform event registry = some position ↔
      (response.check platform event).matched = true := by
  rw [selected_eq_some_iff, FirstHolding, holdsAt_iff, found]
  simp only [Option.some.injEq, exists_eq_left', and_iff_left_iff_imp]
  exact fun _ => reached

theorem trigger_next (registry : Registry) (occurrence : Occurrence) {position : Nat}
    {response : Response} (found : registry.responses[position]? = some response) :
    (∃ platform event nextResponse, occurrence.message? = some (platform, event) ∧
      (occurrence.next registry).responses[position]? = some nextResponse ∧
      nextResponse.trigger = (response.check platform event).next.trigger ∧
      fired position registry occurrence =
        if (response.check platform event).matched then some event else none) ∨
    (∃ nextResponse, (occurrence.next registry).responses[position]? = some nextResponse ∧
      nextResponse.trigger = response.trigger ∧ fired position registry occurrence = none) := by
  cases occurrence with
  | dispatch platform luck event =>
      simp only [Occurrence.next]
      rcases exists_answers platform luck event registry with
        ⟨first, _, holding, _, answers⟩ | ⟨nowhere, answers⟩
      · rw [answers.checked, getElem?_checkedBefore, found, Option.map_some]
        by_cases reached : position ≤ first
        · refine Or.inl ⟨platform, event, (response.check platform event).next, rfl,
            by simp [Nat.lt_succ_of_le reached], rfl, ?_⟩
          simp only [fired, selected_iff_matched found fun earlier below =>
            holding.2 earlier (Nat.lt_of_lt_of_le below reached)]
        · refine Or.inr ⟨response, by simp [show ¬ position < first + 1 by omega], rfl, ?_⟩
          simp only [fired, (selected_eq_some_iff platform event registry first).mpr holding,
            Option.some.injEq, show first ≠ position by omega, if_false]
      · obtain ⟨inside, _⟩ := List.getElem?_eq_some_iff.mp found
        rw [answers.checked, getElem?_checkedBefore, found, Option.map_some]
        refine Or.inl ⟨platform, event, (response.check platform event).next, rfl,
          by simp [inside], rfl, ?_⟩
        simp only [fired, selected_iff_matched found fun earlier _ => nowhere earlier]
  | check platform event checked =>
      simp only [Occurrence.next, List.getElem?_modify, found, Option.map_eq_map, Option.map_some]
      by_cases same : checked = position
      · refine Or.inl ⟨platform, event, (response.check platform event).next, rfl, by simp [same],
          rfl, ?_⟩
        simp [fired, same, found]
      · exact Or.inr ⟨response, by simp [same], rfl, by simp [fired, same]⟩
  | settings change =>
      have kept := (Change.retuned registry change).map_eq Response.trigger fun _ => rfl
      have here := congrArg (fun triggers => triggers[position]?) kept
      simp only [List.getElem?_map, found, Option.map_some] at here
      obtain ⟨nextResponse, nextFound, same⟩ := Option.map_eq_some_iff.mp here
      exact Or.inr ⟨nextResponse, nextFound, same, rfl⟩

/-- A step of a run: the throttle of a rule records the message on which the rule fires, on an open
channel, and nothing else changes it. -/
theorem throttle?_next {registry : Registry} {position : Nat} {throttle : Cooldown}
    (found : registry.throttle? position = some throttle) (occurrence : Occurrence) :
    (occurrence.next registry).throttle? position =
        some ((fired position registry occurrence).elim throttle (recordFiring throttle)) ∧
      ∀ event, fired position registry occurrence = some event →
        throttle.isOpen event.channel event.time = true ∧
          ∃ platform, occurrence.message? = some (platform, event) := by
  obtain ⟨response, inner, here, throttled⟩ := (throttle?_eq_some_iff _ _ _).mp found
  rcases trigger_next registry occurrence here with
    ⟨platform, event, nextResponse, message, nextHere, trigger, verdict⟩ |
      ⟨nextResponse, nextHere, trigger, quiet⟩
  · obtain ⟨opens, nextInner, checked⟩ := check_throttled throttled platform event
    rw [verdict, throttle?_eq_some_iff]
    cases matched : (response.check platform event).matched with
    | false =>
        rw [matched] at checked
        refine ⟨⟨nextResponse, nextInner, nextHere, trigger.trans checked⟩, ?_⟩
        simp
    | true =>
        rw [matched] at checked
        refine ⟨⟨nextResponse, nextInner, nextHere, trigger.trans checked⟩, ?_⟩
        simp only [if_true, Option.some.injEq]
        rintro _ rfl
        exact ⟨(opens matched).1, platform, message⟩
  · rw [quiet, throttle?_eq_some_iff]
    exact ⟨⟨nextResponse, inner, nextHere, trigger.trans throttled⟩, by simp⟩

theorem throttle?_runRules {position : Nat} (occurrences : List Occurrence) {registry : Registry}
    {throttle : Cooldown} (found : registry.throttle? position = some throttle) :
    (runRules occurrences registry).throttle? position =
      some ((firings position occurrences registry).foldl recordFiring throttle) := by
  induction occurrences generalizing registry throttle with
  | nil => exact found
  | cons occurrence later ih =>
      have step := (throttle?_next found occurrence).1
      rw [runRules, firings, ih step]
      cases fired position registry occurrence <;> rfl

def NoLeap (occurrences : List Occurrence) : Prop :=
  ∀ message ∈ occurrences.filterMap Occurrence.message?, message.2.time.isLeap = false

theorem NoLeap.head {occurrence : Occurrence} {later : List Occurrence}
    (plain : NoLeap (occurrence :: later)) {platform : Platform} {event : MessageEvent}
    (message : occurrence.message? = some (platform, event)) : event.time.isLeap = false :=
  plain (platform, event) (List.mem_filterMap.mpr ⟨occurrence, by simp, message⟩)

theorem NoLeap.of_cons {occurrence : Occurrence} {later : List Occurrence}
    (plain : NoLeap (occurrence :: later)) : NoLeap later := by
  intro message member
  obtain ⟨other, inside, found⟩ := List.mem_filterMap.mp member
  exact plain message (List.mem_filterMap.mpr ⟨other, List.mem_cons_of_mem _ inside, found⟩)

theorem firings_after_record {position : Nat} {occurrences : List Occurrence}
    (plain : NoLeap occurrences) {registry : Registry} {throttle : Cooldown}
    (found : registry.throttle? position = some throttle) (window : 0 ≤ throttle.window)
    {channel : ChannelId} {last : Timestamp} (recorded : throttle.lastFired channel = some last)
    (lastPlain : last.isLeap = false) :
    ∀ event ∈ firings position occurrences registry, event.time.isLeap = false ∧
      (event.channel = channel →
        throttle.window < event.time.nanosSince last) := by
  induction occurrences generalizing registry throttle last with
  | nil => simp [firings]
  | cons occurrence later ih =>
      obtain ⟨step, opens⟩ := throttle?_next found occurrence
      intro event member
      rw [firings] at member
      cases verdict : fired position registry occurrence with
      | none =>
          rw [verdict] at step member
          exact ih plain.of_cons step window recorded lastPlain event (by simpa using member)
      | some first =>
          rw [verdict] at step member
          obtain ⟨isOpen, platform, message⟩ := opens first verdict
          have firstPlain := plain.head message
          have record := lastFired_recordFiring throttle first channel
          have gap : first.channel = channel →
              throttle.window < first.time.nanosSince last := by
            intro same
            simpa [Cooldown.isOpen, same, recorded] using isOpen
          rcases List.mem_append.mp member with here | behind
          · have same : event = first := by simpa using here
            exact same ▸ ⟨firstPlain, gap⟩
          · by_cases same : first.channel = channel
            -- The new record lies more than a window behind the one it replaces.
            · rw [if_pos same.symm] at record
              obtain ⟨eventPlain, apart⟩ :=
                ih plain.of_cons step window record firstPlain event behind
              refine ⟨eventPlain, fun sameChannel => ?_⟩
              have farther : throttle.window <
                  event.time.nanosSince first.time := apart sameChannel
              have near := gap same
              rw [Timestamp.nanosSince_eq_instant lastPlain firstPlain] at near
              rw [Timestamp.nanosSince_eq_instant firstPlain eventPlain] at farther
              rw [Timestamp.nanosSince_eq_instant lastPlain eventPlain]
              omega
            · rw [if_neg (Ne.symm same), recorded] at record
              exact ih plain.of_cons step window record lastPlain event behind

theorem firings_plain {position : Nat} {occurrences : List Occurrence} (plain : NoLeap occurrences)
    {registry : Registry} {throttle : Cooldown}
    (found : registry.throttle? position = some throttle) :
    ∀ event ∈ firings position occurrences registry, event.time.isLeap = false := by
  induction occurrences generalizing registry throttle with
  | nil => simp [firings]
  | cons occurrence later ih =>
      obtain ⟨step, opens⟩ := throttle?_next found occurrence
      intro event member
      rcases List.mem_append.mp member with here | behind
      · obtain ⟨_, platform, message⟩ := opens event (Option.mem_toList.mp here)
        exact plain.head message
      · exact ih plain.of_cons step event behind

theorem pairwise_firings {position : Nat} {occurrences : List Occurrence}
    (plain : NoLeap occurrences) {registry : Registry} {throttle : Cooldown}
    (found : registry.throttle? position = some throttle)
    (window : 0 ≤ throttle.window) :
    (firings position occurrences registry).Pairwise fun earlier later =>
      earlier.channel = later.channel →
        throttle.window < later.time.nanosSince earlier.time := by
  induction occurrences generalizing registry throttle with
  | nil => exact List.Pairwise.nil
  | cons occurrence later ih =>
      obtain ⟨step, opens⟩ := throttle?_next found occurrence
      rw [firings]
      cases verdict : fired position registry occurrence with
      | none =>
          rw [verdict] at step
          exact ih plain.of_cons step window
      | some first =>
          rw [verdict, Option.elim_some] at step
          obtain ⟨_, platform, message⟩ := opens first verdict
          have firstPlain := plain.head message
          have record := lastFired_recordFiring throttle first first.channel
          rw [if_pos rfl] at record
          have rest := ih plain.of_cons step window
          have behind := firings_after_record plain.of_cons step window record firstPlain
          exact List.pairwise_cons.mpr
            ⟨fun event member same => (behind event member).2 same.symm, rest⟩

theorem count_firings_within {position : Nat} {occurrences : List Occurrence}
    (plain : NoLeap occurrences) {registry : Registry} {throttle : Cooldown}
    (found : registry.throttle? position = some throttle)
    (window : 0 ≤ throttle.window) (channel : ChannelId) (start : Int) :
    ((firings position occurrences registry).filter fun event =>
      event.channel = channel ∧ start ≤ event.time.instant ∧
        event.time.instant ≤ start + throttle.window).length ≤ 1 := by
  have apart := (pairwise_firings plain found window).sublist
    (List.filter_sublist (p := fun event => event.channel = channel ∧ start ≤ event.time.instant ∧
      event.time.instant ≤ start + throttle.window))
  have within : ∀ event ∈ (firings position occurrences registry).filter (fun event =>
      event.channel = channel ∧ start ≤ event.time.instant ∧
        event.time.instant ≤ start + throttle.window),
      event.time.isLeap = false ∧ event.channel = channel ∧ start ≤ event.time.instant ∧
        event.time.instant ≤ start + throttle.window := by
    intro event member
    obtain ⟨inside, bounds⟩ := List.mem_filter.mp member
    exact ⟨firings_plain plain found event inside, by simpa using bounds⟩
  generalize (firings position occurrences registry).filter _ = close at apart within ⊢
  match close with
  | [] => simp
  | [_] => simp
  | first :: second :: _ =>
      -- Two firings in one stretch as long as the window would be too close together.
      obtain ⟨firstPlain, firstChannel, lower, _⟩ := within first (by simp)
      obtain ⟨secondPlain, secondChannel, _, upper⟩ := within second (by simp)
      have gap := (List.pairwise_cons.mp apart).1 second (by simp)
        (firstChannel.trans secondChannel.symm)
      rw [Timestamp.nanosSince_eq_instant firstPlain secondPlain] at gap
      omega

theorem dispatch_registry_congr {platform other : Platform}
    (sameBot : other.toBot = platform.toBot)
    (samePast : other.precedingAuthor = platform.precedingAuthor) (luck otherLuck : Luck)
    (event : MessageEvent) (registry : Registry) :
    (dispatch other otherLuck event registry).registry =
      (dispatch platform luck event registry).registry :=
  congrArg Selection.registry (selection_dispatch sameBot samePast luck otherLuck event registry)

theorem fired_eq_none_of_inner {registry : Registry} {occurrence : Occurrence}
    {platform : Platform} {event : MessageEvent} {position : Nat} {response : Response}
    {throttle : Cooldown} {inner : Trigger}
    (message : occurrence.message? = some (platform, event))
    (found : registry.responses[position]? = some response)
    (throttled : response.trigger = .cooldown throttle inner)
    (unmatched : (inner.check platform event).matched = false) :
    fired position registry occurrence = none := by
  rcases trigger_next registry occurrence found with
    ⟨checkedOn, about, _, sameMessage, _, _, verdict⟩ | ⟨_, _, _, quiet⟩
  · rw [message, Option.some.injEq, Prod.mk.injEq] at sameMessage
    obtain ⟨rfl, rfl⟩ := sameMessage
    rw [verdict]
    cases matched : (response.check platform event).matched with
    | false => rfl
    | true =>
        have innerMatched := ((check_throttled throttled platform event).1 matched).2
        rw [unmatched] at innerMatched
        contradiction
  · exact quiet

/-- However dispatches, direct checks and changes of settings follow each other, a throttled rule
fires in one channel only at times more than its window apart, and its records are those of its
firings: settings, luck, failed effects and messages that its inner condition does not match leave
them alone. -/
theorem firings_more_than_window_apart (occurrences : List Occurrence) (registry : Registry)
    (position : Nat) (response : Response) (throttle : Cooldown) (inner : Trigger)
    (found : registry.responses[position]? = some response)
    (throttled : response.trigger = .cooldown throttle inner)
    (window : 0 ≤ throttle.window) (plain : NoLeap occurrences) :
    let messages := firings position occurrences registry
    (messages.Pairwise fun earlier later => earlier.channel = later.channel →
        throttle.window < later.time.nanosSince earlier.time) ∧
      (∀ channel start, (messages.filter fun event =>
        event.channel = channel ∧ start ≤ event.time.instant ∧
          event.time.instant ≤ start + throttle.window).length ≤ 1) ∧
      (runRules occurrences registry).throttle? position =
        some (messages.foldl recordFiring throttle) ∧
      (∀ (rules : Registry) (change : Change),
        (change.apply rules).responses.map Response.trigger =
          rules.responses.map Response.trigger) ∧
      (∀ (rules : Registry) (platform : Platform) failure? (luck otherLuck : Luck) event,
        (dispatch { platform with failure? } otherLuck event rules).registry =
          (dispatch platform luck event rules).registry) ∧
      ∀ (rules : Registry) occurrence platform event current currentThrottle currentInner,
        occurrence.message? = some (platform, event) →
        rules.responses[position]? = some current →
        current.trigger = .cooldown currentThrottle currentInner →
        (currentInner.check platform event).matched = false →
          fired position rules occurrence = none ∧
            (occurrence.next rules).throttle? position = some currentThrottle := by
  intro messages
  have here : registry.throttle? position = some throttle :=
    (throttle?_eq_some_iff _ _ _).mpr ⟨response, inner, found, throttled⟩
  refine ⟨pairwise_firings plain here window, count_firings_within plain here window,
    throttle?_runRules occurrences here, ?_, ?_, ?_⟩
  · exact fun rules change => (Change.retuned rules change).map_eq Response.trigger fun _ => rfl
  · intro rules platform failure? luck otherLuck event
    apply dispatch_registry_congr <;> rfl
  · intro rules occurrence platform event current currentThrottle currentInner message currentFound
      currentThrottled unmatched
    have quiet := fired_eq_none_of_inner message currentFound currentThrottled unmatched
    have step := (throttle?_next ((throttle?_eq_some_iff _ _ _).mpr
      ⟨current, currentInner, currentFound, currentThrottled⟩) occurrence).1
    rw [quiet] at step
    exact ⟨quiet, step⟩

def eagerRule : Response :=
  .plain "eager" (.cooldown (.ofWindow 5500000000) (.predicate "any" fun _ _ => true)) .echo

def messageAt (seconds : Int) : MessageEvent :=
  { id := ⟨1⟩, channel := ⟨100⟩, author := ⟨⟨42⟩, "okabe", none⟩, text := "", time := ⟨seconds, 0⟩ }

def brokenPlatform : Platform :=
  { id := ⟨7⟩, name := "Amadeus", emoji? := fun _ => none
    precedingAuthor := fun _ _ => .ok none, failure? := fun _ => some .notConnected }

def eagerRun : List Occurrence :=
  [.dispatch brokenPlatform (.ofSeed 0) (messageAt 10), .check brokenPlatform (messageAt 3) 0,
    .settings (.allEnabled false), .settings (.enabled "EAGER" true),
    .dispatch brokenPlatform (.ofSeed 1) (messageAt 15),
    .check brokenPlatform (messageAt 16) 0]

theorem eagerRun_firings_apart :
    NoLeap eagerRun ∧ firings 0 eagerRun ⟨[eagerRule]⟩ = [messageAt 10, messageAt 16] ∧
      [messageAt 10, messageAt 16].Pairwise fun earlier later => earlier.channel = later.channel →
        (5500000000 : Int) < later.time.nanosSince earlier.time := by
  have plain : NoLeap eagerRun := by
    unfold NoLeap
    decide
  have fired : firings 0 eagerRun ⟨[eagerRule]⟩ = [messageAt 10, messageAt 16] := by decide
  refine ⟨plain, fired, ?_⟩
  rw [← fired]
  exact (firings_more_than_window_apart eagerRun ⟨[eagerRule]⟩ 0 eagerRule (.ofWindow 5500000000)
    (.predicate "any" fun _ _ => true) rfl rfl (by decide) plain).1

end AutoReply
