import Mathlib.Data.List.Forall2
import AutoReply.Proofs.Dispatch.Throttling
import AutoReply.Proofs.Registry.Restoring
import AutoReply.Proofs.Rule.Evaluation

/-!
What may change in the rules while the bot runs: their settings and the records of their throttles,
and nothing else.
-/

namespace AutoReply

open AutoReply.Chat AutoReply.Rule AutoReply.Time

namespace Rule.Trigger

def withRecords (records : SortedMap ChannelId (Option Timestamp)) : Trigger → Trigger
  | cooldown throttle inner => cooldown { throttle with slots := records } inner
  | trigger => trigger

theorem exists_withRecords (trigger : Trigger) :
    ∃ records, trigger.withRecords records = trigger := by
  cases trigger with
  | cooldown throttle inner => exact ⟨throttle.slots, rfl⟩
  | _ => exact ⟨.empty, rfl⟩

inductive Steady : Trigger → Prop
  | phrases (list : Phrases) : Steady (.phrases list)
  | pattern (regular : Pattern) : Steady (.pattern regular)
  | mentions (target : UserId) (replies : Bool) : Steady (.mentions target replies)
  | lastAuthor (target : UserId) : Steady (.lastAuthor target)
  | anyOf {children : List Trigger} : (∀ child ∈ children, Steady child) → Steady (.anyOf children)
  | allOf {children : List Trigger} : (∀ child ∈ children, Steady child) → Steady (.allOf children)

inductive Simple : Trigger → Prop
  | steady {trigger : Trigger} : trigger.Steady → Simple trigger
  | throttled (throttle : Cooldown) {inner : Trigger} : inner.Steady →
      Simple (.cooldown throttle inner)

section

variable {platform : Platform} {event : MessageEvent}

theorem next_checkAny {children : List Trigger}
    (kept : ∀ child ∈ children, (child.check platform event).next = child) :
    (checkAny platform event children).next = children := by
  induction children with
  | nil => rfl
  | cons child children ih =>
      obtain ⟨first, rest⟩ := List.forall_mem_cons.mp kept
      rw [checkAny]
      split
      · simp only [first]
      · simp only [first, ih rest]

theorem next_checkAll {children : List Trigger}
    (kept : ∀ child ∈ children, (child.check platform event).next = child) :
    (checkAll platform event children).next = children := by
  induction children with
  | nil => rfl
  | cons child children ih =>
      obtain ⟨first, rest⟩ := List.forall_mem_cons.mp kept
      rw [checkAll]
      split
      · simp only [first, ih rest]
      · simp only [first]

theorem Steady.next_check {trigger : Trigger} (steady : trigger.Steady) :
    (trigger.check platform event).next = trigger := by
  induction steady with
  | anyOf _ ih => exact congrArg Trigger.anyOf (next_checkAny ih)
  | allOf _ ih => exact congrArg Trigger.allOf (next_checkAll ih)
  | _ => rfl

theorem Simple.next_check {trigger : Trigger} (simple : trigger.Simple)
    (records : SortedMap ChannelId (Option Timestamp)) :
    ∃ later, ((trigger.withRecords records).check platform event).next =
      trigger.withRecords later := by
  cases simple with
  | steady steady =>
      have unrecorded (records : SortedMap ChannelId (Option Timestamp)) :
          trigger.withRecords records = trigger := by
        cases steady <;> rfl
      exact ⟨records, by rw [unrecorded, steady.next_check]⟩
  | throttled throttle steady =>
      simp only [withRecords, check, steady.next_check, Cooldown.tryFire_eq]
      split
      · split
        · exact ⟨_, rfl⟩
        · exact ⟨records, rfl⟩
      · exact ⟨records, rfl⟩

end

end Rule.Trigger

/-- For each rule by its name: whether it is enabled, what it does, and when it fired in which
channel. -/
structure RulesState where
  enabled : String → Bool
  kind : String → ResponseKind
  records : String → SortedMap ChannelId (Option Timestamp)

namespace RulesState

def response (state : RulesState) (rule : Response) : Response where
  name := rule.name
  trigger := rule.trigger.withRecords (state.records rule.name)
  kind := state.kind rule.name
  enabled := state.enabled rule.name

def registry (state : RulesState) (rules : Registry) : Registry :=
  ⟨rules.responses.map state.response⟩

end RulesState

structure Becomes (rule later : Response) : Prop where
  simple : rule.trigger.Simple
  name : later.name = rule.name
  trigger : ∃ records, later.trigger = rule.trigger.withRecords records

theorem Becomes.self {rule : Response} (simple : rule.trigger.Simple) : Becomes rule rule :=
  ⟨simple, rfl, rule.trigger.exists_withRecords.imp fun _ same => same.symm⟩

theorem Becomes.check {rule later : Response} (becomes : Becomes rule later) (platform : Platform)
    (event : MessageEvent) : Becomes rule (later.check platform event).next := by
  refine ⟨becomes.simple, by simp [becomes.name], ?_⟩
  obtain ⟨records, trigger⟩ := becomes.trigger
  cases enabled : later.enabled with
  | false =>
      rw [Response.check_of_disabled platform event later enabled]
      exact ⟨records, trigger⟩
  | true =>
      rw [Response.check_of_enabled platform event later enabled, trigger]
      exact becomes.simple.next_check records

theorem exists_state {rules later : List Response} (distinct : (rules.map Response.name).Nodup)
    (become : List.Forall₂ Becomes rules later) :
    ∃ state : RulesState, later = rules.map state.response := by
  induction become with
  | nil => exact ⟨⟨fun _ => true, fun _ => .plain .echo, fun _ => .empty⟩, rfl⟩
  | @cons rule now rules later becomes _ ih =>
      rw [List.map_cons, List.nodup_cons] at distinct
      obtain ⟨state, rfl⟩ := ih distinct.2
      obtain ⟨records, trigger⟩ := becomes.trigger
      let changed : RulesState :=
        { enabled := fun name => if name = rule.name then now.enabled else state.enabled name
          kind := fun name => if name = rule.name then now.kind else state.kind name
          records := fun name => if name = rule.name then records else state.records name }
      have first : changed.response rule = now := by
        obtain ⟨name, _, kind, enabled⟩ := now
        simp only at trigger
        simp [changed, RulesState.response, trigger, ← becomes.name]
      have others : rules.map changed.response = rules.map state.response := by
        refine List.map_congr_left fun other member => ?_
        have different : other.name ≠ rule.name :=
          fun same => distinct.1 (same ▸ List.mem_map_of_mem member)
        simp [changed, RulesState.response, different]
      exact ⟨changed, by rw [List.map_cons, first, others]⟩

/-! Every step leaves the rules what they are. -/

section

variable {rules : List Response}

theorem becomes_dispatchFrom {later : List Response} (become : List.Forall₂ Becomes rules later)
    (platform : Platform) (luck : Luck) (event : MessageEvent) :
    List.Forall₂ Becomes rules (dispatchFrom platform luck event later).2.1 := by
  induction become with
  | nil => exact .nil
  | cons becomes rest ih =>
      rw [dispatchFrom]
      split
      · exact .cons (becomes.check platform event) rest
      · exact .cons (becomes.check platform event) ih

theorem becomes_modify {later : List Response} (become : List.Forall₂ Becomes rules later)
    (platform : Platform) (event : MessageEvent) (position : Nat) :
    List.Forall₂ Becomes rules
      (later.modify position fun response => (response.check platform event).next) := by
  induction become generalizing position with
  | nil => simp
  | cons becomes rest ih =>
      cases position with
      | zero => exact .cons (becomes.check platform event) rest
      | succ position => exact .cons becomes (ih position)

theorem becomes_retuned {earlier later : List Response}
    (untuned : later.map Response.untuned = earlier.map Response.untuned)
    (become : List.Forall₂ Becomes rules earlier) : List.Forall₂ Becomes rules later := by
  induction become generalizing later with
  | nil =>
      rw [List.map_nil, List.map_eq_nil_iff] at untuned
      rw [untuned]
      exact .nil
  | cons becomes _ ih =>
      obtain ⟨first, others, rfl, same, sameOthers⟩ := List.map_eq_cons_iff.mp untuned
      refine .cons ⟨becomes.simple, ?name, ?trigger⟩ (ih sameOthers)
      case name => exact (Response.name_of_untuned same).trans becomes.name
      case trigger => exact Response.trigger_of_untuned same ▸ becomes.trigger

theorem becomes_next {registry : Registry} (occurrence : Occurrence)
    (become : List.Forall₂ Becomes rules registry.responses) :
    List.Forall₂ Becomes rules (occurrence.next registry).responses := by
  cases occurrence with
  | dispatch platform luck event => exact becomes_dispatchFrom become platform luck event
  | check platform event position => exact becomes_modify become platform event position
  | settings change => exact becomes_retuned (Change.retuned registry change).untuned become

theorem becomes_runRules (occurrences : List Occurrence) {registry : Registry}
    (become : List.Forall₂ Becomes rules registry.responses) :
    List.Forall₂ Becomes rules (runRules occurrences registry).responses := by
  induction occurrences generalizing registry with
  | nil => exact become
  | cons occurrence later ih => exact ih (becomes_next occurrence become)

/-- In a run the rules are always in some state, when they have different names and simple
conditions. -/
theorem exists_state_runRules {registry : Registry}
    (distinct : (registry.responses.map Response.name).Nodup)
    (simple : ∀ rule ∈ registry.responses, rule.trigger.Simple) (occurrences : List Occurrence) :
    ∃ state : RulesState, runRules occurrences registry = state.registry registry := by
  have become := List.forall₂_same.mpr fun rule member => Becomes.self (simple rule member)
  obtain ⟨state, same⟩ := exists_state distinct (becomes_runRules occurrences become)
  exact ⟨state, congrArg Registry.mk same⟩

end

/-! The rules apart from records and settings. -/

namespace Rule.Response

def bare (response : Response) : Response :=
  { response.untuned with trigger := response.trigger.unrecorded }

theorem bare_untuned (response : Response) : response.untuned.bare = response.bare := by
  have kinds : response.kind.untuned.untuned = response.kind.untuned := by
    cases response.kind <;> simp only [ResponseKind.untuned]
  simp only [bare, untuned, kinds]

theorem bare_check (platform : Platform) (event : MessageEvent) (response : Response) :
    (response.check platform event).next.bare = response.bare := by
  cases enabled : response.enabled with
  | false => rw [check_of_disabled platform event response enabled]
  | true =>
      rw [check_of_enabled platform event response enabled]
      exact congrArg (fun trigger => { response.untuned with trigger })
        (Trigger.unrecorded_check response.trigger)

end Rule.Response

theorem bare_dispatchFrom (platform : Platform) (luck : Luck) (event : MessageEvent)
    (responses : List Response) :
    (dispatchFrom platform luck event responses).2.1.map Response.bare =
      responses.map Response.bare := by
  induction responses with
  | nil => rfl
  | cons response rest ih =>
      rw [dispatchFrom]
      split
      · rw [List.map_cons, List.map_cons, Response.bare_check]
      · rw [List.map_cons, List.map_cons, Response.bare_check, ih]

theorem bare_modify (platform : Platform) (event : MessageEvent) (position : Nat)
    (responses : List Response) :
    (responses.modify position fun response => (response.check platform event).next).map
        Response.bare =
      responses.map Response.bare := by
  induction responses generalizing position with
  | nil => cases position <;> rfl
  | cons response rest ih =>
      cases position with
      | zero => exact congrArg (· :: rest.map Response.bare) (response.bare_check platform event)
      | succ position => exact congrArg (response.bare :: ·) (ih position)

theorem bare_next (occurrence : Occurrence) (registry : Registry) :
    (occurrence.next registry).responses.map Response.bare =
      registry.responses.map Response.bare := by
  cases occurrence with
  | dispatch platform luck event => exact bare_dispatchFrom platform luck event registry.responses
  | check platform event position => exact bare_modify platform event position registry.responses
  | settings change =>
      exact (Change.retuned registry change).map_eq Response.bare Response.bare_untuned

theorem bare_runRules (occurrences : List Occurrence) (registry : Registry) :
    (runRules occurrences registry).responses.map Response.bare =
      registry.responses.map Response.bare := by
  induction occurrences generalizing registry with
  | nil => rfl
  | cons occurrence later ih => exact (ih _).trans (bare_next occurrence registry)

theorem exists_named_runRules {rules : Registry} {rule : Response} (member : rule ∈ rules.responses)
    (occurrences : List Occurrence) :
    ∃ later ∈ (runRules occurrences rules).responses, later.name = rule.name := by
  have bare := List.mem_map_of_mem (f := Response.bare) member
  rw [← bare_runRules occurrences rules] at bare
  obtain ⟨later, memberLater, same⟩ := List.mem_map.mp bare
  have names : later.bare.name = rule.bare.name := congrArg Response.name same
  exact ⟨later, memberLater, names⟩

theorem bare_of_named {rules : Registry} {rule : Response} (member : rule ∈ rules.responses)
    (distinct : (rules.responses.map Response.name).Nodup) (occurrences : List Occurrence)
    {later : Response} (memberLater : later ∈ (runRules occurrences rules).responses)
    (named : later.name = rule.name) : later.bare = rule.bare := by
  have bare := List.mem_map_of_mem (f := Response.bare) memberLater
  rw [bare_runRules] at bare
  obtain ⟨original, memberOriginal, same⟩ := List.mem_map.mp bare
  have sameName : original.name = rule.name := (congrArg Response.name same).trans named
  have sameRule := List.inj_on_of_nodup_map distinct memberOriginal member sameName
  exact sameRule ▸ same.symm

namespace Rule

theorem Trigger.unrecordedAll_eq_map (children : List Trigger) :
    Trigger.unrecordedAll children = children.map Trigger.unrecorded := by
  induction children with
  | nil => rfl
  | cons child children ih => rw [Trigger.unrecordedAll, ih, List.map_cons]

theorem Trigger.Steady.eq_of_unrecorded {trigger : Trigger} (steady : trigger.Steady) :
    ∀ {later : Trigger}, later.unrecorded = trigger.unrecorded → later = trigger := by
  have children {now later : List Trigger}
      (ih : ∀ child ∈ now, ∀ {other : Trigger}, other.unrecorded = child.unrecorded →
        other = child)
      (same : Trigger.unrecordedAll later = Trigger.unrecordedAll now) : later = now := by
    rw [unrecordedAll_eq_map, unrecordedAll_eq_map] at same
    induction now generalizing later with
    | nil => exact List.map_eq_nil_iff.mp same
    | cons child now ihNow =>
        obtain ⟨first, rest⟩ := List.forall_mem_cons.mp ih
        obtain ⟨other, others, rfl, sameFirst, sameRest⟩ := List.map_eq_cons_iff.mp same
        rw [first sameFirst, ihNow rest sameRest]
  induction steady with
  | anyOf _ ih =>
      intro later same
      cases later with
      | anyOf others => exact congrArg Trigger.anyOf (children ih (Trigger.anyOf.inj same))
      | _ => cases same
  | allOf _ ih =>
      intro later same
      cases later with
      | allOf others => exact congrArg Trigger.allOf (children ih (Trigger.allOf.inj same))
      | _ => cases same
  | _ =>
      -- a leaf stands for itself, and a group or a throttle stays one
      intro later same
      cases later with
      | anyOf _ | allOf _ | cooldown _ _ => cases same
      | _ => exact same

theorem Response.trigger_of_bare {rule later : Response} (steady : rule.trigger.Steady)
    (same : later.bare = rule.bare) : later.trigger = rule.trigger :=
  steady.eq_of_unrecorded (congrArg Response.trigger same)

theorem Response.plain_of_bare {rule later : Response} {action : Action}
    (plain : rule.kind = .plain action) (same : later.bare = rule.bare) :
    later.kind = .plain action := by
  have kinds : later.kind.untuned = rule.kind.untuned := congrArg Response.kind same
  rw [plain] at kinds
  cases kind : later.kind <;> simp_all [ResponseKind.untuned]

end Rule

end AutoReply
