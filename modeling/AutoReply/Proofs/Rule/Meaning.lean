import Mathlib.Data.List.Basic
import AutoReply.Proofs.Rule.Check
import AutoReply.Proofs.Rule.Cooldown

/-!
What a condition means, apart from the way in which it is checked. Nothing in a condition turns a
failure into success, so a check that learns less about the past matches less.
-/

namespace AutoReply.Rule

open AutoReply.Chat AutoReply.Time

def Cooldown.Permits (throttle : Cooldown) (event : MessageEvent) : Prop :=
  ∀ last, throttle.lastFired event.channel = some last →
    throttle.window < event.time.nanosSince last

namespace Trigger

@[elab_as_elim]
theorem induction {motive : Trigger → Prop} (phrases : ∀ list, motive (.phrases list))
    (pattern : ∀ regular, motive (.pattern regular))
    (mentions : ∀ target replies, motive (.mentions target replies))
    (lastAuthor : ∀ target, motive (.lastAuthor target))
    (anyOf : ∀ children, (∀ child ∈ children, motive child) → motive (.anyOf children))
    (allOf : ∀ children, (∀ child ∈ children, motive child) → motive (.allOf children))
    (cooldown : ∀ throttle inner, motive inner → motive (.cooldown throttle inner))
    (predicate : ∀ name holds, motive (.predicate name holds)) (trigger : Trigger) :
    motive trigger :=
  @Trigger.rec motive (fun children => ∀ child ∈ children, motive child) phrases pattern mentions
    lastAuthor anyOf allOf cooldown predicate (fun _ member => nomatch member)
    (fun _ _ first others => List.forall_mem_cons.mpr ⟨first, others⟩) trigger

/-- The plain meaning of a condition on the records that it has. -/
inductive Holds (platform : Platform) (event : MessageEvent) : Trigger → Prop
  | phrases {list : Phrases} : list.isMatch event.text = true → Holds platform event (.phrases list)
  | pattern {regular : Pattern} :
      regular.isMatch event.text = true → Holds platform event (.pattern regular)
  | mentioned {target : UserId} {replies : Bool} :
      event.mentionsUser target = true → Holds platform event (.mentions target replies)
  | repliedTo {target : UserId} :
      event.replyAuthor = some target → Holds platform event (.mentions target true)
  | lastAuthor {target : UserId} :
      platform.precedingAuthor event.channel event.id = .ok (some target) →
        Holds platform event (.lastAuthor target)
  | anyOf {children : List Trigger} (child : Trigger) :
      child ∈ children → Holds platform event child → Holds platform event (.anyOf children)
  | allOf {children : List Trigger} :
      (∀ child ∈ children, Holds platform event child) → Holds platform event (.allOf children)
  | cooldown {throttle : Cooldown} {inner : Trigger} :
      Holds platform event inner → throttle.Permits event →
        Holds platform event (.cooldown throttle inner)
  | predicate {name : String} {holds : Bot → MessageEvent → Bool} :
      holds platform.toBot event = true → Holds platform event (.predicate name holds)

section

variable {platform : Platform} {event : MessageEvent}

theorem holds_anyOf_iff {children : List Trigger} :
    (anyOf children).Holds platform event ↔ ∃ child ∈ children, child.Holds platform event :=
  ⟨fun | .anyOf child member holds => ⟨child, member, holds⟩,
    fun ⟨child, member, holds⟩ => .anyOf child member holds⟩

theorem holds_allOf_iff {children : List Trigger} :
    (allOf children).Holds platform event ↔ ∀ child ∈ children, child.Holds platform event :=
  ⟨fun | .allOf holds => holds, .allOf⟩

theorem holds_cooldown_iff {throttle : Cooldown} {inner : Trigger} :
    (cooldown throttle inner).Holds platform event ↔
      inner.Holds platform event ∧ throttle.Permits event :=
  ⟨fun | .cooldown holds permits => ⟨holds, permits⟩,
    fun ⟨holds, permits⟩ => .cooldown holds permits⟩

theorem holds_mentions_iff {target : UserId} {replies : Bool} :
    (mentions target replies).Holds platform event ↔
      event.mentionsUser target = true ∨ replies = true ∧ event.replyAuthor = some target := by
  constructor
  · rintro (_ | _ | mentioned | replied)
    · exact .inl mentioned
    · exact .inr ⟨rfl, replied⟩
  · rintro (mentioned | ⟨rfl, replied⟩)
    · exact .mentioned mentioned
    · exact .repliedTo replied

theorem holds_lastAuthor_iff {target : UserId} :
    (lastAuthor target).Holds platform event ↔
      platform.precedingAuthor event.channel event.id = .ok (some target) :=
  ⟨fun | .lastAuthor found => found, .lastAuthor⟩

/-! A check decides the meaning. -/

theorem matched_checkAny (children : List Trigger) :
    (checkAny platform event children).matched = true ↔
      ∃ child ∈ children, (child.check platform event).matched = true := by
  induction children with
  | nil => simp [checkAny]
  | cons child children ih =>
      rw [checkAny, List.exists_mem_cons_iff, ← ih]
      split <;> simp_all

theorem matched_checkAll (children : List Trigger) :
    (checkAll platform event children).matched = true ↔
      ∀ child ∈ children, (child.check platform event).matched = true := by
  induction children with
  | nil => simp [checkAll]
  | cons child children ih =>
      rw [checkAll, List.forall_mem_cons, ← ih]
      split <;> simp_all

theorem matched_checkLastAuthor (target : UserId) :
    (checkLastAuthor platform event target).1 = true ↔
      platform.precedingAuthor event.channel event.id = .ok (some target) := by
  rw [checkLastAuthor]
  cases platform.precedingAuthor event.channel event.id <;> simp

theorem check_cooldown (throttle : Cooldown) (inner : Trigger) :
    (cooldown throttle inner).check platform event =
      let checked := inner.check platform event
      let fires := checked.matched && throttle.isOpen event.channel event.time
      ⟨fires, cooldown (if fires then throttle.record event.channel event.time else throttle)
        checked.next, checked.trace⟩ := by
  rw [check, Cooldown.tryFire_eq]
  obtain ⟨matched, next, trace⟩ := inner.check platform event
  cases matched with
  | false => rfl
  | true => cases throttle.isOpen event.channel event.time <;> rfl

theorem matched_check_iff (trigger : Trigger) :
    (trigger.check platform event).matched = true ↔ trigger.Holds platform event := by
  induction trigger using Trigger.induction with
  | phrases list => exact ⟨.phrases, fun | .phrases found => found⟩
  | pattern regular => exact ⟨.pattern, fun | .pattern found => found⟩
  | mentions target replies => simp [check, holds_mentions_iff]
  | lastAuthor target => exact (matched_checkLastAuthor target).trans holds_lastAuthor_iff.symm
  | anyOf children ih =>
      rw [holds_anyOf_iff, check, Checked.map, matched_checkAny]
      exact exists_congr fun child => and_congr_right fun member => ih child member
  | allOf children ih =>
      rw [holds_allOf_iff, check, Checked.map, matched_checkAll]
      exact forall₂_congr fun child member => ih child member
  | cooldown throttle inner ih =>
      rw [holds_cooldown_iff, check_cooldown, Bool.and_eq_true, ih, Cooldown.isOpen_iff]
      rfl
  | predicate name holds => exact ⟨.predicate, fun | .predicate found => found⟩

instance (trigger : Trigger) : Decidable (trigger.Holds platform event) :=
  decidable_of_iff _ (matched_check_iff trigger)

end

/-! A lookup that fails. -/

section

variable {failing other : Platform} {event : MessageEvent} {error : ApiError}
  (sameBot : other.toBot = failing.toBot)
  (fails : failing.precedingAuthor event.channel event.id = .error error)

include sameBot fails

theorem Holds.of_failing {trigger : Trigger} (holds : trigger.Holds failing event) :
    trigger.Holds other event := by
  induction holds with
  | phrases found => exact .phrases found
  | pattern found => exact .pattern found
  | mentioned found => exact .mentioned found
  | repliedTo found => exact .repliedTo found
  | lastAuthor found => rw [fails] at found; contradiction
  | anyOf child member _ ih => exact .anyOf child member ih
  | allOf _ ih => exact .allOf ih
  | cooldown _ permits ih => exact .cooldown ih permits
  | predicate found => exact .predicate (sameBot ▸ found)

end

end Trigger

/-- The same answer, the same records and the same calls; only the journals may differ. -/
structure Checked.Alike {α : Type} (checked other : Checked α) : Prop where
  matched : other.matched = checked.matched
  next : other.next = checked.next
  attempts : other.trace.attempts = checked.trace.attempts
  calls : other.trace.calls = checked.trace.calls
  lookups : other.trace.lookups = checked.trace.lookups

namespace Checked.Alike

variable {α β : Type} {checked other : Checked α}

theorem refl (checked : Checked α) : Alike checked checked :=
  ⟨rfl, rfl, rfl, rfl, rfl⟩

theorem map (alike : Alike checked other) (change : α → β) :
    Alike (checked.map change) (other.map change) :=
  ⟨alike.matched, congrArg change alike.next, alike.attempts, alike.calls, alike.lookups⟩

theorem alone (alike : Alike checked other) (answer : Bool) (unchecked : List α) :
    Alike ⟨answer, checked.next :: unchecked, checked.trace⟩
      ⟨answer, other.next :: unchecked, other.trace⟩ :=
  ⟨rfl, congrArg (· :: unchecked) alike.next, alike.attempts, alike.calls, alike.lookups⟩

theorem before (alike : Alike checked other) {rest otherRest : Checked (List α)}
    (alikeRest : Alike rest otherRest) :
    Alike ⟨rest.matched, checked.next :: rest.next, checked.trace ++ rest.trace⟩
      ⟨otherRest.matched, other.next :: otherRest.next, other.trace ++ otherRest.trace⟩ :=
  ⟨alikeRest.matched, congrArg₂ _ alike.next alikeRest.next,
    congrArg₂ _ alike.attempts alikeRest.attempts, congrArg₂ _ alike.calls alikeRest.calls,
    congrArg₂ _ alike.lookups alikeRest.lookups⟩

end Checked.Alike

namespace Trigger

section

variable {platform other : Platform} {event : MessageEvent}

theorem alike_checkAny {children : List Trigger}
    (alike : ∀ child ∈ children, (child.check platform event).Alike (child.check other event)) :
    (checkAny platform event children).Alike (checkAny other event children) := by
  induction children with
  | nil => exact .refl _
  | cons child children ih =>
      obtain ⟨first, rest⟩ := List.forall_mem_cons.mp alike
      rw [checkAny, checkAny, first.matched]
      split
      · exact first.alone true children
      · exact first.before (ih rest)

theorem alike_checkAll {children : List Trigger}
    (alike : ∀ child ∈ children, (child.check platform event).Alike (child.check other event)) :
    (checkAll platform event children).Alike (checkAll other event children) := by
  induction children with
  | nil => exact .refl _
  | cons child children ih =>
      obtain ⟨first, rest⟩ := List.forall_mem_cons.mp alike
      rw [checkAll, checkAll, first.matched]
      split
      · exact first.before (ih rest)
      · exact first.alone false children

theorem alike_cooldown (throttle : Cooldown) {inner : Trigger}
    (alike : (inner.check platform event).Alike (inner.check other event)) :
    ((cooldown throttle inner).check platform event).Alike
      ((cooldown throttle inner).check other event) := by
  simp only [check_cooldown, alike.matched, alike.next]
  exact ⟨rfl, rfl, alike.attempts, alike.calls, alike.lookups⟩

theorem alike_of_failing {error : ApiError} (sameBot : other.toBot = platform.toBot)
    (fails : platform.precedingAuthor event.channel event.id = .error error)
    (nobody : other.precedingAuthor event.channel event.id = .ok none) (trigger : Trigger) :
    (trigger.check platform event).Alike (trigger.check other event) := by
  induction trigger using Trigger.induction with
  | lastAuthor target =>
      simp only [check, checkLastAuthor, fails, nobody]
      exact ⟨rfl, rfl, rfl, rfl, rfl⟩
  | anyOf children ih => exact (alike_checkAny ih).map anyOf
  | allOf children ih => exact (alike_checkAll ih).map allOf
  | cooldown throttle inner ih => exact alike_cooldown throttle ih
  | predicate name holds =>
      simp only [check, sameBot]
      exact .refl _
  | _ => exact .refl _

/-- What matches while the past cannot be looked up matches whatever the past is; a lookup that
fails counts as the answer that there is no message before. -/
theorem failed_lookup_matches_least (failing other : Platform) (event : MessageEvent)
    (trigger : Trigger) (error : ApiError) (sameBot : other.toBot = failing.toBot)
    (fails : failing.precedingAuthor event.channel event.id = .error error) :
    ((trigger.check failing event).matched = true →
        (trigger.check other event).matched = true) ∧
      (other.precedingAuthor event.channel event.id = .ok none →
        (trigger.check failing event).Alike (trigger.check other event)) := by
  refine ⟨fun matched => ?_, fun nobody => alike_of_failing sameBot fails nobody trigger⟩
  rw [matched_check_iff] at matched ⊢
  exact matched.of_failing sameBot fails

end

def gratitude : Trigger :=
  .cooldown (.ofWindow (5 * nanosInSecond)) (.anyOf [.allOf [.equalTo ["thanks"], .lastAuthor ⟨7⟩],
    .anyOf [.lastAuthor ⟨7⟩, .predicate "any" fun _ _ => true]])

def thanksMessage : MessageEvent :=
  { id := ⟨1⟩, channel := ⟨100⟩, author := ⟨⟨42⟩, "okabe", none⟩, text := "Thanks", time := ⟨10, 0⟩ }

def platformAnswering (answer : Except ApiError (Option UserId)) : Platform :=
  { id := ⟨7⟩, name := "Amadeus", emoji? := fun _ => none
    precedingAuthor := fun _ _ => answer, failure? := fun _ => none }

theorem gratitude_matches_least :
    let failing := platformAnswering (.error .timeout)
    let knowing := platformAnswering (.ok (some ⟨7⟩))
    let forgetful := platformAnswering (.ok none)
    (gratitude.check failing thanksMessage).matched = true ∧
      (gratitude.check knowing thanksMessage).matched = true ∧
      (gratitude.check failing thanksMessage).Alike (gratitude.check forgetful thanksMessage) := by
  intro failing knowing forgetful
  have matched : (gratitude.check failing thanksMessage).matched = true := by decide
  have known := failed_lookup_matches_least failing knowing thanksMessage gratitude .timeout rfl rfl
  have forgot :=
    failed_lookup_matches_least failing forgetful thanksMessage gratitude .timeout rfl rfl
  exact ⟨matched, known.1 matched, forgot.2 rfl⟩

end Trigger

end AutoReply.Rule
