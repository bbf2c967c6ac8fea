import AutoReply.Rule.Response

/-!
What a check leaves alone: it tries nothing on the platform, and of a rule it changes at most the
records inside the condition. An action tries one effect at most.
-/

namespace AutoReply

namespace Trace

@[simp] theorem attempts_append (earlier later : Trace) :
    (earlier ++ later).attempts = earlier.attempts ++ later.attempts := rfl

@[simp] theorem calls_append (earlier later : Trace) :
    (earlier ++ later).calls = earlier.calls ++ later.calls := rfl

@[simp] theorem lookups_append (earlier later : Trace) :
    (earlier ++ later).lookups = earlier.lookups ++ later.lookups := rfl

@[simp] theorem attempts_ofEntry (entry : Entry) : (ofEntry entry).attempts = [] := rfl

@[simp] theorem calls_ofEntry (entry : Entry) : (ofEntry entry).calls = [] := rfl

@[simp] theorem lookups_ofEntry (entry : Entry) : (ofEntry entry).lookups = [] := rfl

@[simp] theorem empty_append (trace : Trace) : ({} : Trace) ++ trace = trace := rfl

end Trace

namespace Rule

open AutoReply.Chat

theorem attempts_checkLastAuthor (platform : Platform) (event : MessageEvent) (target : UserId) :
    (checkLastAuthor platform event target).2.attempts = [] := by
  unfold checkLastAuthor
  cases platform.precedingAuthor event.channel event.id <;> simp

namespace Trigger

mutual

theorem attempts_check (platform : Platform) (event : MessageEvent) :
    ∀ trigger : Trigger, (trigger.check platform event).trace.attempts = []
  | phrases _ => by simp [check]
  | pattern _ => by simp [check]
  | mentions _ _ => by simp [check]
  | lastAuthor target => by simpa [check] using attempts_checkLastAuthor platform event target
  | anyOf children => by simpa [check, Checked.map] using attempts_checkAny platform event children
  | allOf children => by simpa [check, Checked.map] using attempts_checkAll platform event children
  | cooldown throttle inner => by
      have quiet := attempts_check platform event inner
      simp only [check]
      split <;> exact quiet
  | predicate _ _ => by simp [check]

theorem attempts_checkAny (platform : Platform) (event : MessageEvent) :
    ∀ children : List Trigger, (checkAny platform event children).trace.attempts = []
  | [] => by simp [checkAny]
  | child :: children => by
      have first := attempts_check platform event child
      have others := attempts_checkAny platform event children
      simp only [checkAny]
      split <;> simp [first, others]

theorem attempts_checkAll (platform : Platform) (event : MessageEvent) :
    ∀ children : List Trigger, (checkAll platform event children).trace.attempts = []
  | [] => by simp [checkAll]
  | child :: children => by
      have first := attempts_check platform event child
      have others := attempts_checkAll platform event children
      simp only [checkAll]
      split <;> simp [first, others]

end

/-! Two platforms with the same bot and the same past check every condition alike, whichever
effects they refuse. -/

mutual

theorem check_congr {platform other : Platform} (sameBot : other.toBot = platform.toBot)
    (samePast : other.precedingAuthor = platform.precedingAuthor) (event : MessageEvent) :
    ∀ trigger : Trigger, trigger.check other event = trigger.check platform event
  | phrases _ => by simp [check]
  | pattern _ => by simp [check]
  | mentions _ _ => by simp [check]
  | lastAuthor target => by simp [check, checkLastAuthor, samePast]
  | anyOf children => by simp [check, checkAny_congr sameBot samePast event children]
  | allOf children => by simp [check, checkAll_congr sameBot samePast event children]
  | cooldown throttle inner => by simp [check, check_congr sameBot samePast event inner]
  | predicate _ _ => by simp [check, sameBot]

theorem checkAny_congr {platform other : Platform} (sameBot : other.toBot = platform.toBot)
    (samePast : other.precedingAuthor = platform.precedingAuthor) (event : MessageEvent) :
    ∀ children : List Trigger, checkAny other event children = checkAny platform event children
  | [] => by simp [checkAny]
  | child :: children => by
      simp [checkAny, check_congr sameBot samePast event child,
        checkAny_congr sameBot samePast event children]

theorem checkAll_congr {platform other : Platform} (sameBot : other.toBot = platform.toBot)
    (samePast : other.precedingAuthor = platform.precedingAuthor) (event : MessageEvent) :
    ∀ children : List Trigger, checkAll other event children = checkAll platform event children
  | [] => by simp [checkAll]
  | child :: children => by
      simp [checkAll, check_congr sameBot samePast event child,
        checkAll_congr sameBot samePast event children]

end

end Trigger

theorem Action.attempts_apply_le_one (platform : Platform) (luck : Luck) (event : MessageEvent)
    (action : Action) : (action.apply platform luck event).1.attempts.length ≤ 1 := by
  unfold Action.apply
  cases action.effect platform.toBot luck event with
  | ok effect => simp [attempt]
  | error note => simp

theorem Action.calls_apply (platform : Platform) (luck : Luck) (event : MessageEvent)
    (action : Action) :
    (action.apply platform luck event).1.calls = [] ∧
      (action.apply platform luck event).1.lookups = [] := by
  unfold Action.apply
  cases action.effect platform.toBot luck event with
  | ok effect => simp [attempt]
  | error note => simp

namespace Response

theorem check_congr {platform other : Platform} (sameBot : other.toBot = platform.toBot)
    (samePast : other.precedingAuthor = platform.precedingAuthor) (event : MessageEvent)
    (response : Response) : response.check other event = response.check platform event := by
  simp [check, Trigger.check_congr sameBot samePast event response.trigger]

/-- All of a rule but its condition. -/
def settings (response : Response) : String × Bool × ResponseKind :=
  (response.name, response.enabled, response.kind)

variable (platform : Platform) (event : MessageEvent) (response : Response)

theorem check_of_enabled (enabled : response.enabled = true) :
    response.check platform event =
      (response.trigger.check platform event).map fun trigger => { response with trigger } := by
  simp [check, enabled]

theorem check_of_disabled (disabled : response.enabled = false) :
    response.check platform event = ⟨false, response, {}⟩ := by
  simp [check, disabled]

theorem matched_check :
    (response.check platform event).matched =
      (response.enabled && (response.trigger.check platform event).matched) := by
  cases enabled : response.enabled <;> simp [check, enabled, Checked.map]

theorem attempts_check : (response.check platform event).trace.attempts = [] := by
  cases enabled : response.enabled with
  | false => simp [check_of_disabled platform event response enabled]
  | true =>
      simpa [check_of_enabled platform event response enabled, Checked.map] using
        Trigger.attempts_check platform event response.trigger

@[simp] theorem name_check : (response.check platform event).next.name = response.name := by
  cases enabled : response.enabled <;> simp [check, enabled, Checked.map]

@[simp] theorem kind_check : (response.check platform event).next.kind = response.kind := by
  cases enabled : response.enabled <;> simp [check, enabled, Checked.map]

@[simp] theorem enabled_check :
    (response.check platform event).next.enabled = response.enabled := by
  cases enabled : response.enabled <;> simp [check, enabled, Checked.map]

@[simp] theorem settings_check :
    (response.check platform event).next.settings = response.settings := by
  simp [settings]

theorem apply_check (luck : Luck) :
    (response.check platform event).next.apply platform luck event =
      response.apply platform luck event := by
  simp [apply, activeAction]

theorem attempts_apply_le_one (luck : Luck) :
    (response.apply platform luck event).1.attempts.length ≤ 1 := by
  unfold apply
  split
  · split
    · exact Action.attempts_apply_le_one platform luck event _
    · simp
  · exact Action.attempts_apply_le_one platform luck event _

theorem calls_apply (luck : Luck) :
    (response.apply platform luck event).1.calls = [] ∧
      (response.apply platform luck event).1.lookups = [] := by
  unfold apply
  split
  · split
    · exact Action.calls_apply platform luck event _
    · simp
  · exact Action.calls_apply platform luck event _

end Response

end Rule

end AutoReply
