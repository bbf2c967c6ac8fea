import Mathlib.Data.List.Nodup
import AutoReply.Proofs.Rule.Meaning
import AutoReply.Proofs.SortedMap

/-!
Which parts of a condition are evaluated. A check goes from left to right and stops where the answer
is known; it asks what the leaves ask that it comes to, and it changes the records of those throttles
that fire.
-/

namespace AutoReply

open AutoReply.Chat

namespace Trace

theorem append_assoc (first second third : Trace) :
    first ++ second ++ third = first ++ (second ++ third) := by
  show append (append first second) third = append first (append second third)
  simp [append]

theorem append_empty (trace : Trace) : trace ++ ({} : Trace) = trace := by
  show append trace {} = trace
  simp [append]

def join : List Trace → Trace
  | [] => {}
  | trace :: later => trace ++ join later

theorem join_append (earlier later : List Trace) :
    join (earlier ++ later) = join earlier ++ join later := by
  induction earlier with
  | nil => rfl
  | cons trace rest ih => rw [List.cons_append, join, ih, join, append_assoc]

theorem calls_join (traces : List Trace) : (join traces).calls = traces.flatMap calls := by
  induction traces with
  | nil => rfl
  | cons trace later ih => rw [join, calls_append, ih, List.flatMap_cons]

theorem lookups_join (traces : List Trace) : (join traces).lookups = traces.flatMap lookups := by
  induction traces with
  | nil => rfl
  | cons trace later ih => rw [join, lookups_append, ih, List.flatMap_cons]

end Trace

namespace Rule.Trigger

/-! The parts of a condition. A place is a list of child numbers, from the outside in. -/

def children : Trigger → List Trigger
  | anyOf children => children
  | allOf children => children
  | cooldown _ inner => [inner]
  | _ => []

def part? : Trigger → List Nat → Option Trigger
  | trigger, [] => some trigger
  | trigger, number :: place => trigger.children[number]?.bind fun child => child.part? place

def inChild (number : Nat) (part : List Nat × Trigger) : List Nat × Trigger :=
  (number :: part.1, part.2)

mutual

def leaves : Trigger → List (List Nat × Trigger)
  | anyOf children => leavesFrom 0 children
  | allOf children => leavesFrom 0 children
  | cooldown _ inner => inner.leaves.map (inChild 0)
  | leaf => [([], leaf)]

def leavesFrom (number : Nat) : List Trigger → List (List Nat × Trigger)
  | [] => []
  | child :: children => child.leaves.map (inChild number) ++ leavesFrom (number + 1) children

end

def call? : Trigger → Option String
  | predicate name _ => some name
  | _ => none

def lookup? (event : MessageEvent) : Trigger → Option (ChannelId × MessageId)
  | lastAuthor _ => some (event.channel, event.id)
  | _ => none

def throttle? (trigger : Trigger) (place : List Nat) : Option Cooldown :=
  match trigger.part? place with
  | some (cooldown throttle _) => some throttle
  | _ => none

mutual

def unrecorded : Trigger → Trigger
  | anyOf children => anyOf (unrecordedAll children)
  | allOf children => allOf (unrecordedAll children)
  | cooldown throttle inner => cooldown { throttle with slots := .empty } inner.unrecorded
  | leaf => leaf

def unrecordedAll : List Trigger → List Trigger
  | [] => []
  | child :: children => child.unrecorded :: unrecordedAll children

end

section

variable (platform : Platform) (event : MessageEvent)

/-- What a child must be like for a check to go on behind it: where one child is enough it fails,
and where all must hold it holds. -/
def GoesOnBehind : Trigger → Trigger → Prop
  | anyOf _, child => ¬ child.Holds platform event
  | allOf _, child => child.Holds platform event
  | _, _ => True

/-- A check comes to the part at a place. -/
def Reaches : Trigger → List Nat → Prop
  | _, [] => True
  | trigger, number :: place =>
      (∀ sibling ∈ trigger.children.take number, trigger.GoesOnBehind platform event sibling) ∧
        ∃ child ∈ trigger.children[number]?, child.Reaches place

def Fires (trigger : Trigger) (place : List Nat) : Prop :=
  trigger.Reaches platform event place ∧
    ∃ part ∈ trigger.part? place, part.Holds platform event

instance decidableGoesOnBehind : ∀ trigger child : Trigger,
    Decidable (trigger.GoesOnBehind platform event child)
  | anyOf _, child => inferInstanceAs (Decidable (¬ child.Holds platform event))
  | allOf _, child => inferInstanceAs (Decidable (child.Holds platform event))
  | phrases _, _ | pattern _, _ | mentions _ _, _ | lastAuthor _, _ | cooldown _ _, _
  | predicate _ _, _ => .isTrue trivial

instance decidableReaches : ∀ (trigger : Trigger) (place : List Nat),
    Decidable (trigger.Reaches platform event place)
  | _, [] => .isTrue trivial
  | trigger, number :: place =>
      have (child : Trigger) : Decidable (child.Reaches platform event place) :=
        decidableReaches child place
      inferInstanceAs (Decidable ((∀ sibling ∈ trigger.children.take number,
        trigger.GoesOnBehind platform event sibling) ∧
          ∃ child ∈ trigger.children[number]?, child.Reaches platform event place))

instance (trigger : Trigger) (place : List Nat) : Decidable (trigger.Fires platform event place) :=
  inferInstanceAs (Decidable (_ ∧ _))

end

/-! Checking the children of a condition. -/

section

variable (platform : Platform) (event : MessageEvent)

def checkWhile (goesOn : Trigger → Prop) [DecidablePred goesOn] :
    List Trigger → List Trigger × Trace
  | [] => ([], {})
  | child :: children =>
      let checked := child.check platform event
      if goesOn child then
        let (others, trace) := checkWhile goesOn children
        (checked.next :: others, checked.trace ++ trace)
      else (checked.next :: children, checked.trace)

variable {platform event}

theorem checkAny_eq (children : List Trigger) :
    ((checkAny platform event children).next, (checkAny platform event children).trace) =
      checkWhile platform event (fun child => ¬ child.Holds platform event) children := by
  induction children with
  | nil => rfl
  | cons child children ih =>
      rw [checkAny, checkWhile, ← ih]
      simp only [matched_check_iff, ite_not]
      split <;> rfl

theorem checkAll_eq (children : List Trigger) :
    ((checkAll platform event children).next, (checkAll platform event children).trace) =
      checkWhile platform event (fun child => child.Holds platform event) children := by
  induction children with
  | nil => rfl
  | cons child children ih =>
      rw [checkAll, checkWhile, ← ih]
      simp only [matched_check_iff]
      split <;> rfl

/-! The records behind a check. -/

theorem getElem?_checkWhile (goesOn : Trigger → Prop) [DecidablePred goesOn]
    (children : List Trigger) (number : Nat) :
    (checkWhile platform event goesOn children).1[number]? =
      children[number]?.map fun child =>
        if ∀ sibling ∈ children.take number, goesOn sibling then (child.check platform event).next
        else child := by
  induction children generalizing number with
  | nil => rfl
  | cons child children ih =>
      cases number with
      | zero =>
          rw [checkWhile]
          split <;> simp
      | succ number =>
          rw [checkWhile, List.take_succ_cons]
          simp only [List.forall_mem_cons, List.getElem?_cons_succ]
          split
          next passed => simpa [passed] using ih number
          next stopped => simp [stopped]

theorem getElem?_children_check (trigger : Trigger) (number : Nat) :
    (trigger.check platform event).next.children[number]? =
      trigger.children[number]?.map fun child =>
        if ∀ sibling ∈ trigger.children.take number, trigger.GoesOnBehind platform event sibling
        then (child.check platform event).next else child := by
  cases trigger with
  | anyOf children =>
      have next := congrArg Prod.fst (@checkAny_eq platform event children)
      exact (congrArg (·[number]?) next).trans (getElem?_checkWhile _ children number)
  | allOf children =>
      have next := congrArg Prod.fst (@checkAll_eq platform event children)
      exact (congrArg (·[number]?) next).trans (getElem?_checkWhile _ children number)
  | cooldown throttle inner =>
      have next : ((cooldown throttle inner).check platform event).next.children =
          [(inner.check platform event).next] := by
        rw [check_cooldown]
        rfl
      rw [next]
      cases number <;> simp [children, GoesOnBehind]
  | _ => simp [check, children]

theorem throttle?_cons (trigger : Trigger) (number : Nat) (place : List Nat) :
    trigger.throttle? (number :: place) =
      trigger.children[number]?.bind fun child => child.throttle? place := by
  unfold throttle?
  rw [part?]
  cases trigger.children[number]? <;> rfl

theorem fires_cons_iff (trigger : Trigger) (number : Nat) (place : List Nat) :
    trigger.Fires platform event (number :: place) ↔
      (∀ sibling ∈ trigger.children.take number, trigger.GoesOnBehind platform event sibling) ∧
        ∃ child ∈ trigger.children[number]?, child.Fires platform event place := by
  unfold Fires
  rw [Reaches, part?]
  cases trigger.children[number]? <;> simp [and_assoc]

theorem fires_nil_iff (trigger : Trigger) :
    trigger.Fires platform event [] ↔ trigger.Holds platform event := by
  simp [Fires, Reaches, part?]

theorem throttle?_check_nil (trigger : Trigger) :
    (trigger.check platform event).next.throttle? [] =
      (trigger.throttle? []).map fun throttle =>
        if trigger.Fires platform event [] then throttle.record event.channel event.time
        else throttle := by
  simp only [fires_nil_iff, ← matched_check_iff]
  cases trigger with
  | cooldown throttle inner =>
      rw [check_cooldown]
      rfl
  | _ => rfl

theorem throttle?_check (trigger : Trigger) (place : List Nat) :
    (trigger.check platform event).next.throttle? place =
      (trigger.throttle? place).map fun throttle =>
        if trigger.Fires platform event place then throttle.record event.channel event.time
        else throttle := by
  induction place generalizing trigger with
  | nil => exact throttle?_check_nil trigger
  | cons number place ih =>
      rw [throttle?_cons, throttle?_cons, getElem?_children_check]
      simp only [fires_cons_iff]
      cases trigger.children[number]? with
      | none => rfl
      | some child =>
          simp only [Option.map_some, Option.bind_some, Option.mem_def, Option.some.injEq,
            exists_eq_left']
          split
          next reached => simpa only [and_iff_right reached] using ih child
          next missed => simp [missed]

theorem unrecorded_checkAny {children : List Trigger}
    (kept : ∀ child ∈ children, (child.check platform event).next.unrecorded = child.unrecorded) :
    unrecordedAll (checkAny platform event children).next = unrecordedAll children := by
  induction children with
  | nil => rfl
  | cons child children ih =>
      obtain ⟨first, rest⟩ := List.forall_mem_cons.mp kept
      rw [checkAny]
      split
      · simp only [unrecordedAll, first]
      · simp only [unrecordedAll, first, ih rest]

theorem unrecorded_checkAll {children : List Trigger}
    (kept : ∀ child ∈ children, (child.check platform event).next.unrecorded = child.unrecorded) :
    unrecordedAll (checkAll platform event children).next = unrecordedAll children := by
  induction children with
  | nil => rfl
  | cons child children ih =>
      obtain ⟨first, rest⟩ := List.forall_mem_cons.mp kept
      rw [checkAll]
      split
      · simp only [unrecordedAll, first, ih rest]
      · simp only [unrecordedAll, first]

theorem unrecorded_check (trigger : Trigger) :
    (trigger.check platform event).next.unrecorded = trigger.unrecorded := by
  induction trigger using Trigger.induction with
  | anyOf children ih => exact congrArg anyOf (unrecorded_checkAny ih)
  | allOf children ih => exact congrArg allOf (unrecorded_checkAll ih)
  | cooldown throttle inner ih =>
      rw [check_cooldown]
      dsimp only
      split <;> exact congrArg (cooldown _) ih
  | _ => rfl

/-! What a check asks. -/

theorem mem_leavesFrom {number : Nat} {children : List Trigger} {leaf : List Nat × Trigger}
    (member : leaf ∈ leavesFrom number children) :
    ∃ index, ∃ child ∈ children[index]?, ∃ part ∈ child.leaves,
      leaf = inChild (number + index) part := by
  induction children generalizing number with
  | nil => cases member
  | cons child children ih =>
      rw [leavesFrom, List.mem_append] at member
      rcases member with first | later
      · obtain ⟨part, inside, rfl⟩ := List.mem_map.mp first
        exact ⟨0, child, rfl, part, inside, rfl⟩
      · obtain ⟨index, child, found, part, inside, rfl⟩ := ih later
        refine ⟨index + 1, child, found, part, inside, ?_⟩
        rw [Nat.add_assoc, Nat.add_comm 1]

/-- Induction from a test outwards, through the conditions around it. -/
theorem leaves_induction {motive : Trigger → List Nat × Trigger → Prop}
    (alone : ∀ leaf, leaf.leaves = [([], leaf)] → motive leaf ([], leaf))
    (inside : ∀ trigger number part, ∀ child ∈ trigger.children[number]?,
      motive child part → motive trigger (inChild number part))
    (trigger : Trigger) : ∀ leaf ∈ trigger.leaves, motive trigger leaf := by
  have compound (trigger : Trigger) (split : trigger.leaves = leavesFrom 0 trigger.children)
      (ih : ∀ child ∈ trigger.children, ∀ leaf ∈ child.leaves, motive child leaf) :
      ∀ leaf ∈ trigger.leaves, motive trigger leaf := by
    intro leaf member
    rw [split] at member
    obtain ⟨index, child, found, part, within, rfl⟩ := mem_leavesFrom member
    rw [Nat.zero_add]
    exact inside trigger index part child found (ih child (List.mem_of_getElem? found) part within)
  induction trigger using Trigger.induction with
  | anyOf children ih => exact compound _ rfl ih
  | allOf children ih => exact compound _ rfl ih
  | cooldown throttle inner ih =>
      exact compound _ (List.append_nil _).symm (List.forall_mem_singleton.mpr ih)
  | _ => exact List.forall_mem_singleton.mpr (alone _ rfl)

theorem part?_of_mem_leaves (trigger : Trigger) :
    ∀ leaf ∈ trigger.leaves, trigger.part? leaf.1 = some leaf.2 := by
  refine leaves_induction (motive := fun trigger leaf => trigger.part? leaf.1 = some leaf.2)
    (fun _ _ => rfl) (fun trigger number part child found ih => ?_) trigger
  rw [inChild, part?, found]
  exact ih

theorem nodup_leavesFrom {children : List Trigger}
    (nodup : ∀ child ∈ children, (child.leaves.map Prod.fst).Nodup) (number : Nat) :
    ((leavesFrom number children).map Prod.fst).Nodup := by
  induction children generalizing number with
  | nil => exact .nil
  | cons child children ih =>
      obtain ⟨first, rest⟩ := List.forall_mem_cons.mp nodup
      have places : (child.leaves.map (inChild number)).map Prod.fst =
          (child.leaves.map Prod.fst).map (number :: ·) := by
        rw [List.map_map, List.map_map]
        rfl
      rw [leavesFrom, List.map_append, places, List.nodup_append']
      refine ⟨first.map List.cons_injective, ih rest (number + 1), ?_⟩
      rintro _ inFirst inRest
      obtain ⟨place, _, rfl⟩ := List.mem_map.mp inFirst
      obtain ⟨leaf, inside, same⟩ := List.mem_map.mp inRest
      obtain ⟨index, _, _, part, _, rfl⟩ := mem_leavesFrom inside
      rw [inChild, List.cons.injEq] at same
      omega

theorem nodup_leaves (trigger : Trigger) : (trigger.leaves.map Prod.fst).Nodup := by
  induction trigger using Trigger.induction with
  | anyOf children ih => exact nodup_leavesFrom ih 0
  | allOf children ih => exact nodup_leavesFrom ih 0
  | cooldown throttle inner ih =>
      have alone := @nodup_leavesFrom [inner] (List.forall_mem_singleton.mpr ih) 0
      rwa [leavesFrom, leavesFrom, List.append_nil] at alone
  | _ => exact List.nodup_singleton _

variable (platform event) in
def evaluated (trigger : Trigger) : List (List Nat × Trigger) :=
  trigger.leaves.filter fun leaf => trigger.Reaches platform event leaf.1

variable (platform event) in
def evaluatedWhile (goesOn : Trigger → Prop) [DecidablePred goesOn] (number : Nat) :
    List Trigger → List (List Nat × Trigger)
  | [] => []
  | child :: children =>
      (child.evaluated platform event).map (inChild number) ++
        if goesOn child then evaluatedWhile goesOn (number + 1) children else []

theorem reaches_iff_of_split {trigger child : Trigger} {earlier later : List Trigger}
    (split : trigger.children = earlier ++ child :: later) (place : List Nat) :
    trigger.Reaches platform event (earlier.length :: place) ↔
      (∀ sibling ∈ earlier, trigger.GoesOnBehind platform event sibling) ∧
        child.Reaches platform event place := by
  rw [Reaches, split]
  simp

theorem not_reaches_of_split {trigger child : Trigger} {earlier later : List Trigger}
    (split : trigger.children = earlier ++ child :: later)
    (stops : ¬ trigger.GoesOnBehind platform event child) {number : Nat}
    (behind : earlier.length < number) (place : List Nat) :
    ¬ trigger.Reaches platform event (number :: place) := by
  rw [Reaches, split]
  rintro ⟨passed, _⟩
  refine stops (passed child ?_)
  obtain ⟨further, rfl⟩ := Nat.exists_eq_add_of_lt behind
  rw [Nat.add_assoc, List.take_length_add_append, List.take_succ_cons]
  exact List.mem_append_right _ List.mem_cons_self

theorem filter_leavesFrom {trigger : Trigger} {earlier later : List Trigger}
    (split : trigger.children = earlier ++ later)
    (passed : ∀ sibling ∈ earlier, trigger.GoesOnBehind platform event sibling) :
    ((leavesFrom earlier.length later).filter fun leaf => trigger.Reaches platform event leaf.1) =
      evaluatedWhile platform event (trigger.GoesOnBehind platform event) earlier.length later := by
  induction later generalizing earlier with
  | nil => rfl
  | cons child later ih =>
      have first : ((child.leaves.map (inChild earlier.length)).filter fun leaf =>
          trigger.Reaches platform event leaf.1) =
            (child.evaluated platform event).map (inChild earlier.length) := by
        rw [List.filter_map, evaluated]
        refine congrArg _ (List.filter_congr fun leaf _ => ?_)
        exact decide_eq_decide.mpr
          ((reaches_iff_of_split split leaf.1).trans (and_iff_right passed))
      have next : trigger.children = (earlier ++ [child]) ++ later := by
        rw [split, List.append_assoc, List.singleton_append]
      rw [leavesFrom, evaluatedWhile, List.filter_append, first]
      refine congrArg _ ?_
      split
      next goesOn =>
        have rest := ih next (List.forall_mem_append.mpr ⟨passed, by simpa using goesOn⟩)
        rwa [List.length_append, List.length_singleton] at rest
      next stops =>
        refine List.filter_eq_nil_iff.mpr fun leaf member reached => ?_
        obtain ⟨index, _, _, part, _, rfl⟩ := mem_leavesFrom member
        rw [decide_eq_true_eq] at reached
        exact not_reaches_of_split split stops (by omega) part.1 reached

theorem leaves_filter_reaches {trigger : Trigger}
    (compound : trigger.leaves = leavesFrom 0 trigger.children) :
    trigger.evaluated platform event =
      evaluatedWhile platform event (trigger.GoesOnBehind platform event) 0 trigger.children := by
  have split : trigger.children = [] ++ trigger.children := rfl
  rw [evaluated, compound]
  exact filter_leavesFrom split nofun

variable (platform event) in
def traceOf (tests : List (List Nat × Trigger)) : Trace :=
  .join (tests.map fun test => (test.2.check platform event).trace)

theorem traceOf_append (earlier later : List (List Nat × Trigger)) :
    traceOf platform event (earlier ++ later) =
      traceOf platform event earlier ++ traceOf platform event later := by
  rw [traceOf, List.map_append, Trace.join_append]
  rfl

theorem traceOf_inChild (number : Nat) (tests : List (List Nat × Trigger)) :
    traceOf platform event (tests.map (inChild number)) = traceOf platform event tests := by
  rw [traceOf, List.map_map]
  rfl

theorem trace_checkWhile (goesOn : Trigger → Prop) [DecidablePred goesOn] {children : List Trigger}
    (traces : ∀ child ∈ children, (child.check platform event).trace =
      traceOf platform event (child.evaluated platform event)) (number : Nat) :
    (checkWhile platform event goesOn children).2 =
      traceOf platform event (evaluatedWhile platform event goesOn number children) := by
  induction children generalizing number with
  | nil => rfl
  | cons child children ih =>
      obtain ⟨first, rest⟩ := List.forall_mem_cons.mp traces
      rw [checkWhile, evaluatedWhile, traceOf_append, traceOf_inChild, ← first]
      split
      · rw [← ih rest (number + 1)]
      · exact (Trace.append_empty _).symm

theorem evaluated_cooldown (throttle : Cooldown) (inner : Trigger) :
    (cooldown throttle inner).evaluated platform event =
      (inner.evaluated platform event).map (inChild 0) := by
  rw [leaves_filter_reaches (List.append_nil _).symm]
  exact List.append_nil _

theorem trace_check_leaf {leaf : Trigger} (alone : leaf.leaves = [([], leaf)]) :
    (leaf.check platform event).trace =
      traceOf platform event (leaf.evaluated platform event) := by
  have evaluated : leaf.evaluated platform event = [([], leaf)] := by
    rw [evaluated, alone]
    rfl
  rw [evaluated]
  exact (Trace.append_empty _).symm

theorem trace_check (trigger : Trigger) :
    (trigger.check platform event).trace =
      traceOf platform event (trigger.evaluated platform event) := by
  induction trigger using Trigger.induction with
  | anyOf children ih =>
      rw [leaves_filter_reaches rfl]
      exact (congrArg Prod.snd (checkAny_eq children)).trans (trace_checkWhile _ ih 0)
  | allOf children ih =>
      rw [leaves_filter_reaches rfl]
      exact (congrArg Prod.snd (checkAll_eq children)).trans (trace_checkWhile _ ih 0)
  | cooldown throttle inner ih => rw [check_cooldown, evaluated_cooldown, traceOf_inChild, ← ih]
  | _ => exact trace_check_leaf rfl

theorem asks_of_mem_leaves (trigger : Trigger) : ∀ leaf ∈ trigger.leaves,
    (leaf.2.check platform event).trace.calls = leaf.2.call?.toList ∧
      (leaf.2.check platform event).trace.lookups = (leaf.2.lookup? event).toList := by
  refine leaves_induction (motive := fun _ leaf =>
    (leaf.2.check platform event).trace.calls = leaf.2.call?.toList ∧
      (leaf.2.check platform event).trace.lookups = (leaf.2.lookup? event).toList)
    (fun leaf alone => ?_) (fun _ _ _ _ _ asks => asks) trigger
  cases leaf with
  | lastAuthor target =>
      rw [check, checkLastAuthor]
      cases platform.precedingAuthor event.channel event.id <;> exact ⟨rfl, rfl⟩
  | anyOf children =>
      obtain ⟨_, _, _, _, _, same⟩ := mem_leavesFrom (alone ▸ List.mem_singleton_self _)
      cases same
  | allOf children =>
      obtain ⟨_, _, _, _, _, same⟩ := mem_leavesFrom (alone ▸ List.mem_singleton_self _)
      cases same
  | cooldown throttle inner =>
      obtain ⟨_, _, same⟩ := List.mem_map.mp (alone ▸ List.mem_singleton_self _)
      cases same
  | _ => exact ⟨rfl, rfl⟩

theorem calls_check (trigger : Trigger) :
    (trigger.check platform event).trace.calls =
      (trigger.evaluated platform event).filterMap fun leaf => leaf.2.call? := by
  rw [trace_check, traceOf, Trace.calls_join, List.flatMap_map, List.filterMap_eq_flatMap_toList]
  exact List.flatMap_congr fun leaf member =>
    (asks_of_mem_leaves trigger leaf (List.mem_of_mem_filter member)).1

theorem lookups_check (trigger : Trigger) :
    (trigger.check platform event).trace.lookups =
      (trigger.evaluated platform event).filterMap fun leaf => leaf.2.lookup? event := by
  rw [trace_check, traceOf, Trace.lookups_join, List.flatMap_map, List.filterMap_eq_flatMap_toList]
  exact List.flatMap_congr fun leaf member =>
    (asks_of_mem_leaves trigger leaf (List.mem_of_mem_filter member)).2

theorem lastFired_check (trigger : Trigger) (place : List Nat) (channel : ChannelId) :
    ((trigger.check platform event).next.throttle? place).map (·.lastFired channel) =
      (trigger.throttle? place).map fun throttle =>
        if trigger.Fires platform event place ∧ channel = event.channel then some event.time
        else throttle.lastFired channel := by
  rw [throttle?_check, Option.map_map]
  refine congrFun (congrArg Option.map (funext fun throttle => ?_)) _
  by_cases fires : trigger.Fires platform event place
  · simp only [Function.comp_apply, fires, if_true, true_and]
    exact throttle.lastFired_record event.channel channel event.time
  · simp only [Function.comp_apply, fires, false_and, if_false]

end

/-- A check answers what the condition means on the records before it. It evaluates the tests that
it comes to, each once and from left to right, and asks what they ask; and of all that a condition
consists of it changes the records of the throttles that fire, for the channel of the message. -/
theorem check_evaluates_as_needed (platform : Platform) (event : MessageEvent) (trigger : Trigger) :
    let checked := trigger.check platform event
    let evaluated := trigger.leaves.filter fun leaf => trigger.Reaches platform event leaf.1
    (checked.matched = true ↔ trigger.Holds platform event) ∧
      (trigger.leaves.map Prod.fst).Nodup ∧
      (∀ leaf ∈ trigger.leaves, trigger.part? leaf.1 = some leaf.2) ∧
      checked.trace.calls = evaluated.filterMap (fun leaf => leaf.2.call?) ∧
      checked.trace.lookups = evaluated.filterMap (fun leaf => leaf.2.lookup? event) ∧
      checked.next.unrecorded = trigger.unrecorded ∧
      ∀ place channel, (checked.next.throttle? place).map (·.lastFired channel) =
        (trigger.throttle? place).map fun throttle =>
          if trigger.Fires platform event place ∧ channel = event.channel then some event.time
          else throttle.lastFired channel :=
  ⟨matched_check_iff trigger, nodup_leaves trigger, part?_of_mem_leaves trigger,
    calls_check trigger, lookups_check trigger, unrecorded_check trigger, lastFired_check trigger⟩

example : (gratitude.evaluated (platformAnswering (.ok (some ⟨7⟩))) thanksMessage).map Prod.fst =
    [[0, 0, 0], [0, 0, 1]] := by
  decide

end Rule.Trigger

end AutoReply
