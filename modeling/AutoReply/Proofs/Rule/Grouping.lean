import AutoReply.Proofs.Rule.Evaluation

/-!
Conditions in groups. A group inside a group of its own kind can be dissolved: its conditions are
checked in its place, and they answer, ask and record what they did inside it.
-/

namespace AutoReply.Rule.Trigger

open AutoReply.Chat

def group (enough : Bool) : List Trigger → Trigger :=
  if enough then anyOf else allOf

section

variable (platform : Platform) (event : MessageEvent)

def checkUntil (decides : Bool) : List Trigger → Checked (List Trigger)
  | [] => ⟨!decides, [], {}⟩
  | child :: children =>
      let first := child.check platform event
      if first.matched = decides then ⟨decides, first.next :: children, first.trace⟩
      else
        let others := checkUntil decides children
        ⟨others.matched, first.next :: others.next, first.trace ++ others.trace⟩

def checkParts (decides : Bool) (before inside after : List Trigger) :
    Checked (List Trigger × List Trigger × List Trigger) :=
  let first := checkUntil platform event decides before
  if first.matched = decides then ⟨decides, (first.next, inside, after), first.trace⟩
  else
    let second := checkUntil platform event decides inside
    if second.matched = decides then
      ⟨decides, (first.next, second.next, after), first.trace ++ second.trace⟩
    else
      let third := checkUntil platform event decides after
      ⟨third.matched, (first.next, second.next, third.next),
        first.trace ++ (second.trace ++ third.trace)⟩

variable {platform event}

theorem checkUntil_true (children : List Trigger) :
    checkUntil platform event true children = checkAny platform event children := by
  induction children with
  | nil => rfl
  | cons child children ih => rw [checkUntil, checkAny, ih]

theorem checkUntil_false (children : List Trigger) :
    checkUntil platform event false children = checkAll platform event children := by
  induction children with
  | nil => rfl
  | cons child children ih =>
      rw [checkUntil, checkAll, ih]
      cases (child.check platform event).matched <;> rfl

theorem check_group (enough : Bool) (children : List Trigger) :
    (group enough children).check platform event =
      (checkUntil platform event enough children).map (group enough) := by
  cases enough with
  | true => exact congrArg (Checked.map anyOf) (checkUntil_true children).symm
  | false => exact congrArg (Checked.map allOf) (checkUntil_false children).symm

theorem length_next_checkUntil (decides : Bool) (children : List Trigger) :
    (checkUntil platform event decides children).next.length = children.length := by
  induction children with
  | nil => rfl
  | cons child children ih =>
      rw [checkUntil]
      split
      · rfl
      · rw [List.length_cons, List.length_cons, ih]

theorem checkUntil_append (decides : Bool) (earlier later : List Trigger) :
    checkUntil platform event decides (earlier ++ later) =
      let first := checkUntil platform event decides earlier
      if first.matched = decides then ⟨decides, first.next ++ later, first.trace⟩
      else
        let others := checkUntil platform event decides later
        ⟨others.matched, first.next ++ others.next, first.trace ++ others.trace⟩ := by
  induction earlier with
  | nil => cases decides <;> rfl
  | cons child earlier ih =>
      rw [List.cons_append, checkUntil, checkUntil, ih]
      by_cases decided : (child.check platform event).matched = decides
      · simp only [decided, if_true, List.cons_append]
      · simp only [decided, if_false]
        split
        · rfl
        · simp only [List.cons_append, Trace.append_assoc]

theorem checkUntil_singleton_group (enough : Bool) (inside : List Trigger) :
    checkUntil platform event enough [group enough inside] =
      (checkUntil platform event enough inside).map fun later => [group enough later] := by
  rw [checkUntil, check_group, checkUntil]
  by_cases decided : (checkUntil platform event enough inside).matched = enough
  · simp only [Checked.map, decided, if_true]
  · have other : (checkUntil platform event enough inside).matched = !enough :=
      Bool.eq_not.mpr decided
    simp only [Checked.map, other, Bool.not_eq_self, if_false, Trace.append_empty]

theorem check_flat (enough : Bool) (before inside after : List Trigger) :
    (group enough (before ++ inside ++ after)).check platform event =
      (checkParts platform event enough before inside after).map fun parts =>
        group enough (parts.1 ++ parts.2.1 ++ parts.2.2) := by
  rw [check_group, List.append_assoc, checkUntil_append, checkUntil_append, checkParts]
  dsimp only
  split
  · simp only [Checked.map, List.append_assoc]
  · split <;> simp only [Checked.map, List.append_assoc]

theorem check_nested (enough : Bool) (before inside after : List Trigger) :
    (group enough (before ++ [group enough inside] ++ after)).check platform event =
      (checkParts platform event enough before inside after).map fun parts =>
        group enough (parts.1 ++ [group enough parts.2.1] ++ parts.2.2) := by
  rw [check_group, List.append_assoc, checkUntil_append, checkUntil_append,
    checkUntil_singleton_group, checkParts]
  dsimp only [Checked.map]
  split
  · simp only [List.append_assoc]
  · split <;> simp only [List.append_assoc]

theorem length_checkParts (enough : Bool) (before inside after : List Trigger) :
    let parts := (checkParts platform event enough before inside after).next
    parts.1.length = before.length ∧ parts.2.1.length = inside.length ∧
      parts.2.2.length = after.length := by
  rw [checkParts]
  dsimp only
  split
  · exact ⟨length_next_checkUntil enough before, rfl, rfl⟩
  · split
    · exact ⟨length_next_checkUntil enough before, length_next_checkUntil enough inside, rfl⟩
    · exact ⟨length_next_checkUntil enough before, length_next_checkUntil enough inside,
        length_next_checkUntil enough after⟩

end

/-- With and without a group around the conditions inside, a check has the same answer, does the
same, and leaves the same conditions with the same records. -/
structure Dissolves (platform : Platform) (event : MessageEvent)
    (grouped : List Trigger → Trigger) (before inside after : List Trigger) : Prop where
  matched : ((grouped (before ++ [grouped inside] ++ after)).check platform event).matched =
    ((grouped (before ++ inside ++ after)).check platform event).matched
  trace : ((grouped (before ++ [grouped inside] ++ after)).check platform event).trace =
    ((grouped (before ++ inside ++ after)).check platform event).trace
  next : ∃ first second third : List Trigger,
    first.length = before.length ∧ second.length = inside.length ∧ third.length = after.length ∧
      ((grouped (before ++ [grouped inside] ++ after)).check platform event).next =
        grouped (first ++ [grouped second] ++ third) ∧
      ((grouped (before ++ inside ++ after)).check platform event).next =
        grouped (first ++ second ++ third)

theorem dissolves_group (platform : Platform) (event : MessageEvent) (enough : Bool)
    (before inside after : List Trigger) :
    Dissolves platform event (group enough) before inside after where
  matched := by rw [check_nested, check_flat]; rfl
  trace := by rw [check_nested, check_flat]; rfl
  next := by
    obtain ⟨first, second, third⟩ := @length_checkParts platform event enough before inside after
    refine ⟨_, _, _, first, second, third, ?_, ?_⟩
    · rw [check_nested]
      rfl
    · rw [check_flat]
      rfl

/-- A group inside a group of its own kind can be dissolved, whether one of its conditions is enough
or all of them must hold, and whatever the conditions are. -/
theorem groups_dissolve (platform : Platform) (event : MessageEvent)
    (before inside after : List Trigger) :
    Dissolves platform event anyOf before inside after ∧
      Dissolves platform event allOf before inside after :=
  ⟨dissolves_group platform event true before inside after,
    dissolves_group platform event false before inside after⟩

/-! Messages that come one after the other. -/

def answersTo : Trigger → List (Platform × MessageEvent) → List (Bool × Trace)
  | _, [] => []
  | trigger, (platform, event) :: later =>
      let checked := trigger.check platform event
      (checked.matched, checked.trace) :: answersTo checked.next later

theorem answersTo_nested (enough : Bool) (before inside after : List Trigger)
    (messages : List (Platform × MessageEvent)) :
    (group enough (before ++ [group enough inside] ++ after)).answersTo messages =
      (group enough (before ++ inside ++ after)).answersTo messages := by
  induction messages generalizing before inside after with
  | nil => rfl
  | cons message later ih =>
      obtain ⟨platform, event⟩ := message
      have step := dissolves_group platform event enough before inside after
      obtain ⟨first, second, third, _, _, _, nested, flat⟩ := step.next
      rw [answersTo, answersTo, step.matched, step.trace, nested, flat, ih]

end AutoReply.Rule.Trigger
