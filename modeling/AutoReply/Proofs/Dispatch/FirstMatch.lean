import AutoReply.Dispatch
import AutoReply.Proofs.Rule.Check

/-!
Which rule answers a message: the first enabled one whose condition holds when the rules are checked
in order. Nothing behind it is looked at, and only it tries an effect.
-/

namespace AutoReply

open AutoReply.Chat AutoReply.Rule

def checkedBefore (platform : Platform) (event : MessageEvent) (registry : Registry) :
    Nat → Registry
  | 0 => registry
  | count + 1 =>
      ⟨(checkedBefore platform event registry count).responses.modify count fun response =>
        (response.check platform event).next⟩

/-- The rule at a position is enabled, and its condition holds on the records that the checks of the
rules before it have left. -/
def HoldsAt (platform : Platform) (event : MessageEvent) (registry : Registry) (position : Nat) :
    Prop :=
  ∃ response, (checkedBefore platform event registry position).responses[position]? = some response ∧
    response.enabled = true ∧ (response.trigger.check platform event).matched = true

def FirstHolding (platform : Platform) (event : MessageEvent) (registry : Registry)
    (position : Nat) : Prop :=
  HoldsAt platform event registry position ∧
    ∀ earlier < position, ¬ HoldsAt platform event registry earlier

def enabledBefore (registry : Registry) (position : Nat) : List Response :=
  (registry.responses.take position).filter Response.enabled

/-- What a dispatch does that checks the rules before position `visited` and applies `chosen`. -/
structure Answers (platform : Platform) (luck : Luck) (event : MessageEvent) (registry : Registry)
    (visited : Nat) (chosen : Option Response) (outcome : Dispatched) : Prop where
  fired : outcome.fired = chosen.map Response.name
  checked : outcome.registry = checkedBefore platform event registry visited
  calls : outcome.trace.calls = (enabledBefore registry visited).flatMap fun response =>
    (response.trigger.check platform event).trace.calls
  lookups : outcome.trace.lookups = (enabledBefore registry visited).flatMap fun response =>
    (response.trigger.check platform event).trace.lookups
  attempts : outcome.trace.attempts = chosen.elim [] fun response =>
    (response.apply platform luck event).1.attempts

section

variable (platform : Platform) (event : MessageEvent) (registry : Registry)

theorem getElem?_checkedBefore (count position : Nat) :
    (checkedBefore platform event registry count).responses[position]? =
      registry.responses[position]?.map fun response =>
        if position < count then (response.check platform event).next else response := by
  induction count with
  | zero => simp [checkedBefore]
  | succ count ih =>
      simp only [checkedBefore, List.getElem?_modify, ih, Option.map_eq_map, Option.map_map]
      congr 1
      funext response
      rcases Nat.lt_trichotomy position count with below | same | above
      · simp [below, Nat.ne_of_gt below, Nat.lt_succ_of_lt below]
      · simp [same]
      · simp [Nat.ne_of_lt above, Nat.not_lt_of_gt above, show ¬ position < count + 1 by omega]

theorem responses_checkedBefore (count : Nat) :
    (checkedBefore platform event registry count).responses =
      (registry.responses.take count).map (fun response => (response.check platform event).next) ++
        registry.responses.drop count := by
  apply List.ext_getElem?
  intro position
  rw [getElem?_checkedBefore, List.getElem?_append]
  simp only [List.length_map, List.length_take, List.getElem?_map, List.getElem?_take,
    List.getElem?_drop]
  by_cases inside : position < registry.responses.length
  · by_cases below : position < count
    · simp [below, inside, show position < min count registry.responses.length by omega]
    · rw [if_neg (by omega)]
      have index : count + (position - min count registry.responses.length) = position := by omega
      simp [below, index]
  · have outside : registry.responses[position]? = none := List.getElem?_eq_none (by omega)
    have beyond : registry.responses[count + (position - min count registry.responses.length)]? =
        none := List.getElem?_eq_none (by omega)
    simp [outside, beyond]

theorem holdsAt_iff (position : Nat) :
    HoldsAt platform event registry position ↔
      ∃ response, registry.responses[position]? = some response ∧
        (response.check platform event).matched = true := by
  simp only [HoldsAt, getElem?_checkedBefore, Response.matched_check, Bool.and_eq_true]
  simp

end

def traceChecks (platform : Platform) (event : MessageEvent) (responses : List Response)
    (trace : Trace) : Trace :=
  responses.foldr (fun response later => (response.check platform event).trace ++ later) trace

section

variable (platform : Platform) (luck : Luck) (event : MessageEvent)

theorem calls_traceChecks (responses : List Response) (trace : Trace) :
    (traceChecks platform event responses trace).calls =
      ((responses.filter Response.enabled).flatMap fun response =>
        (response.trigger.check platform event).trace.calls) ++ trace.calls := by
  induction responses with
  | nil => simp [traceChecks]
  | cons response rest ih =>
      simp only [traceChecks, List.foldr_cons, Trace.calls_append] at ih ⊢
      rw [ih]
      cases enabled : response.enabled <;> simp [Response.check, enabled, Checked.map]

theorem lookups_traceChecks (responses : List Response) (trace : Trace) :
    (traceChecks platform event responses trace).lookups =
      ((responses.filter Response.enabled).flatMap fun response =>
        (response.trigger.check platform event).trace.lookups) ++ trace.lookups := by
  induction responses with
  | nil => simp [traceChecks]
  | cons response rest ih =>
      simp only [traceChecks, List.foldr_cons, Trace.lookups_append] at ih ⊢
      rw [ih]
      cases enabled : response.enabled <;> simp [Response.check, enabled, Checked.map]

theorem attempts_traceChecks (responses : List Response) (trace : Trace) :
    (traceChecks platform event responses trace).attempts = trace.attempts := by
  induction responses with
  | nil => simp [traceChecks]
  | cons response rest ih =>
      simp only [traceChecks, List.foldr_cons, Trace.attempts_append] at ih ⊢
      rw [ih, Response.attempts_check, List.nil_append]

theorem dispatchFrom_append (before rest : List Response)
    (unmatched : ∀ response ∈ before, (response.check platform event).matched = false) :
    dispatchFrom platform luck event (before ++ rest) =
      ((dispatchFrom platform luck event rest).1,
        before.map (fun response => (response.check platform event).next) ++
          (dispatchFrom platform luck event rest).2.1,
        traceChecks platform event before (dispatchFrom platform luck event rest).2.2) := by
  induction before with
  | nil => simp [traceChecks]
  | cons response before ih =>
      have first := unmatched response (by simp)
      have others := ih fun other member => unmatched other (by simp [member])
      simp [dispatchFrom, first, others, traceChecks]

theorem fire_effects (response : Response) :
    (fire platform luck event response).attempts =
        (response.apply platform luck event).1.attempts ∧
      (fire platform luck event response).calls = [] ∧
      (fire platform luck event response).lookups = [] := by
  have quiet := Response.calls_apply platform event response luck
  unfold fire
  generalize response.apply platform luck event = applied at quiet ⊢
  obtain ⟨trace, failure⟩ := applied
  cases failure <;> simpa using quiet

end

section

variable (platform : Platform) (luck : Luck) (event : MessageEvent) (registry : Registry)

theorem unmatched_before_first {position : Nat}
    (first : FirstHolding platform event registry position) :
    ∀ response ∈ registry.responses.take position,
      (response.check platform event).matched = false := by
  intro response member
  obtain ⟨earlier, below, same⟩ := List.mem_iff_getElem.mp member
  rw [List.length_take] at below
  have notHolding := first.2 earlier (by omega)
  rw [holdsAt_iff] at notHolding
  have found : registry.responses[earlier]? = some response := by
    rw [List.getElem?_eq_getElem (by omega), ← same, List.getElem_take]
  cases matched : (response.check platform event).matched with
  | false => rfl
  | true => exact absurd ⟨response, found, matched⟩ notHolding

theorem dispatch_of_first {position : Nat} {response : Response}
    (first : FirstHolding platform event registry position)
    (found : registry.responses[position]? = some response) :
    Answers platform luck event registry (position + 1) (some response)
      (dispatch platform luck event registry) := by
  obtain ⟨inside, same⟩ := List.getElem?_eq_some_iff.mp found
  have matched : (response.check platform event).matched = true := by
    obtain ⟨other, foundOther, matched⟩ := (holdsAt_iff platform event registry position).mp first.1
    rw [found, Option.some.injEq] at foundOther
    rwa [foundOther]
  have split : registry.responses = registry.responses.take position ++
      response :: registry.responses.drop (position + 1) := by
    rw [← same, List.getElem_cons_drop, List.take_append_drop]
  have taken : registry.responses.take (position + 1) =
      registry.responses.take position ++ [response] := by
    rw [List.take_add_one, found, Option.toList_some]
  have result := dispatchFrom_append platform luck event (registry.responses.take position)
    (response :: registry.responses.drop (position + 1))
    (unmatched_before_first platform event registry first)
  rw [← split] at result
  have effects := fire_effects platform luck event (response.check platform event).next
  rw [Response.apply_check] at effects
  constructor
  · simp [dispatch, result, dispatchFrom, matched]
  · have kept := responses_checkedBefore platform event registry (position + 1)
    rw [taken] at kept
    cases after : checkedBefore platform event registry (position + 1) with
    | mk responses =>
        rw [after] at kept
        simp only [dispatch, result, dispatchFrom, matched, if_true, Registry.mk.injEq]
        simpa using kept.symm
  · simp only [dispatch, result, dispatchFrom, matched, if_true, calls_traceChecks,
      Trace.calls_append, effects.2.1, List.append_nil, enabledBefore, taken]
    cases enabled : response.enabled <;> simp [Response.check, enabled, Checked.map]
  · simp only [dispatch, result, dispatchFrom, matched, if_true, lookups_traceChecks,
      Trace.lookups_append, effects.2.2, List.append_nil, enabledBefore, taken]
    cases enabled : response.enabled <;> simp [Response.check, enabled, Checked.map]
  · simp [dispatch, result, dispatchFrom, matched, attempts_traceChecks, effects.1,
      Response.attempts_check]

theorem dispatch_of_none (nowhere : ∀ position, ¬ HoldsAt platform event registry position) :
    Answers platform luck event registry registry.responses.length none
      (dispatch platform luck event registry) := by
  have unmatched : ∀ response ∈ registry.responses,
      (response.check platform event).matched = false := by
    intro response member
    obtain ⟨position, found⟩ := List.mem_iff_getElem?.mp member
    have notHolding := nowhere position
    rw [holdsAt_iff] at notHolding
    cases matched : (response.check platform event).matched with
    | false => rfl
    | true => exact absurd ⟨response, found, matched⟩ notHolding
  have result := dispatchFrom_append platform luck event registry.responses [] unmatched
  rw [List.append_nil] at result
  constructor
  · simp [dispatch, result, dispatchFrom]
  · have kept := responses_checkedBefore platform event registry registry.responses.length
    cases after : checkedBefore platform event registry registry.responses.length with
    | mk responses =>
        rw [after] at kept
        simp only [dispatch, result, dispatchFrom, Registry.mk.injEq]
        simpa using kept.symm
  · simp [dispatch, result, dispatchFrom, calls_traceChecks, enabledBefore]
  · simp [dispatch, result, dispatchFrom, lookups_traceChecks, enabledBefore]
  · simp [dispatch, result, dispatchFrom, attempts_traceChecks]

variable {platform event registry} in
theorem exists_firstHolding {position : Nat} (holds : HoldsAt platform event registry position) :
    ∃ first ≤ position, FirstHolding platform event registry first := by
  induction position using Nat.strongRecOn with
  | ind position ih =>
      by_cases earlier : ∃ other < position, HoldsAt platform event registry other
      · obtain ⟨other, below, holdsOther⟩ := earlier
        obtain ⟨first, bound, minimal⟩ := ih other below holdsOther
        exact ⟨first, by omega, minimal⟩
      · exact ⟨position, Nat.le_refl position, holds,
          fun other below holdsOther => earlier ⟨other, below, holdsOther⟩⟩

variable {platform event registry} in
theorem FirstHolding.unique {position other : Nat}
    (first : FirstHolding platform event registry position)
    (otherFirst : FirstHolding platform event registry other) : position = other := by
  rcases Nat.lt_trichotomy position other with below | same | above
  · exact absurd first.1 (otherFirst.2 position below)
  · exact same
  · exact absurd otherFirst.1 (first.2 other above)

theorem exists_answers :
    (∃ position response, FirstHolding platform event registry position ∧
      registry.responses[position]? = some response ∧
      Answers platform luck event registry (position + 1) (some response)
        (dispatch platform luck event registry)) ∨
    ((∀ position, ¬ HoldsAt platform event registry position) ∧
      Answers platform luck event registry registry.responses.length none
        (dispatch platform luck event registry)) := by
  by_cases nowhere : ∀ position, ¬ HoldsAt platform event registry position
  · exact Or.inr ⟨nowhere, dispatch_of_none platform luck event registry nowhere⟩
  · obtain ⟨position, holds⟩ := Classical.not_forall.mp nowhere
    obtain ⟨first, _, minimal⟩ := exists_firstHolding (Classical.not_not.mp holds)
    obtain ⟨response, found, _⟩ := (holdsAt_iff platform event registry first).mp minimal.1
    exact Or.inl ⟨first, response, minimal, found,
      dispatch_of_first platform luck event registry minimal found⟩

variable {platform luck event registry}

theorem Answers.attempts_le_one {visited : Nat} {chosen : Option Response} {outcome : Dispatched}
    (answers : Answers platform luck event registry visited chosen outcome) :
    outcome.trace.attempts.length ≤ 1 := by
  rw [answers.attempts]
  cases chosen with
  | none => simp
  | some response => exact Response.attempts_apply_le_one platform event response luck

theorem settings_checkedBefore (count : Nat) :
    (checkedBefore platform event registry count).responses.map Response.settings =
      registry.responses.map Response.settings := by
  have same : (Response.settings ∘ fun response => (response.check platform event).next) =
      Response.settings := by
    funext response
    simp
  rw [responses_checkedBefore, List.map_append, List.map_map, same, ← List.map_append,
    List.take_append_drop]

theorem Answers.unchanged {visited : Nat} {chosen : Option Response} {outcome : Dispatched}
    (answers : Answers platform luck event registry visited chosen outcome)
    {position : Nat} {response : Response}
    (found : registry.responses[position]? = some response)
    (spared : response.enabled = false ∨ visited ≤ position) :
    outcome.registry.responses[position]? = some response := by
  rw [answers.checked, getElem?_checkedBefore, found, Option.map_some]
  rcases spared with disabled | beyond
  · simp [Response.check_of_disabled platform event response disabled]
  · simp [Nat.not_lt.mpr beyond]

end

theorem attempts_dispatch_le_one (platform : Platform) (luck : Luck) (event : MessageEvent)
    (registry : Registry) : (dispatch platform luck event registry).trace.attempts.length ≤ 1 := by
  rcases exists_answers platform luck event registry with ⟨_, _, _, _, answers⟩ | ⟨_, answers⟩
  · exact answers.attempts_le_one
  · exact answers.attempts_le_one

theorem exists_fired {platform : Platform} {luck : Luck} {event : MessageEvent}
    {registry : Registry} {name : String}
    (fired : (dispatch platform luck event registry).fired = some name) :
    ∃ response ∈ registry.responses, response.name = name ∧
      (response.trigger.check platform event).matched = true ∧
        (dispatch platform luck event registry).trace.attempts =
          (response.apply platform luck event).1.attempts := by
  rcases exists_answers platform luck event registry with
    ⟨position, response, first, found, answers⟩ | ⟨_, answers⟩
  · obtain ⟨other, foundOther, matched⟩ := (holdsAt_iff platform event registry position).mp first.1
    rw [found, Option.some.injEq] at foundOther
    rw [← foundOther, Response.matched_check, Bool.and_eq_true] at matched
    rw [answers.fired, Option.map_some, Option.some.injEq] at fired
    exact ⟨response, List.mem_of_getElem? found, fired, matched.2, answers.attempts⟩
  · rw [answers.fired] at fired
    cases fired

structure Selection where
  fired : Option String
  calls : List String
  lookups : List (ChannelId × MessageId)
  registry : Registry

def Dispatched.selection (outcome : Dispatched) : Selection :=
  ⟨outcome.fired, outcome.trace.calls, outcome.trace.lookups, outcome.registry⟩

theorem selection_dispatch {platform other : Platform} (sameBot : other.toBot = platform.toBot)
    (samePast : other.precedingAuthor = platform.precedingAuthor) (luck otherLuck : Luck)
    (event : MessageEvent) (registry : Registry) :
    (dispatch other otherLuck event registry).selection =
      (dispatch platform luck event registry).selection := by
  have same (responses : List Response) :
      let outcome := dispatchFrom platform luck event responses
      let otherOutcome := dispatchFrom other otherLuck event responses
      otherOutcome.1 = outcome.1 ∧ otherOutcome.2.1 = outcome.2.1 ∧
        otherOutcome.2.2.calls = outcome.2.2.calls ∧
        otherOutcome.2.2.lookups = outcome.2.2.lookups := by
    induction responses with
    | nil => exact ⟨rfl, rfl, rfl, rfl⟩
    | cons response rest ih =>
        obtain ⟨fired, others, calls, lookups⟩ := ih
        simp only [dispatchFrom, Response.check_congr sameBot samePast event response]
        split
        · simp [fire_effects]
        · simp [fired, others, calls, lookups]
  obtain ⟨fired, responses, calls, lookups⟩ := same registry.responses
  simp [Dispatched.selection, dispatch, fired, responses, calls, lookups]

/-- The first enabled rule whose condition holds answers alone; the conditions up to it are checked
once and in order, those behind it never, and nothing but their own records changes. -/
theorem dispatch_first_match (platform : Platform) (luck : Luck) (event : MessageEvent)
    (registry : Registry) :
    let outcome := dispatch platform luck event registry
    (∀ name, outcome.fired = some name ↔ ∃ position response,
        FirstHolding platform event registry position ∧
          registry.responses[position]? = some response ∧ response.name = name) ∧
      (outcome.fired = none ↔ ∀ position, ¬ HoldsAt platform event registry position) ∧
      (∀ position response, FirstHolding platform event registry position →
        registry.responses[position]? = some response →
          Answers platform luck event registry (position + 1) (some response) outcome) ∧
      ((∀ position, ¬ HoldsAt platform event registry position) →
        Answers platform luck event registry registry.responses.length none outcome) ∧
      outcome.trace.attempts.length ≤ 1 ∧
      outcome.registry.responses.map Response.settings =
        registry.responses.map Response.settings ∧
      ∀ position response, registry.responses[position]? = some response →
        (response.enabled = false ∨
          ∃ first < position, FirstHolding platform event registry first) →
        outcome.registry.responses[position]? = some response := by
  intro outcome
  rcases exists_answers platform luck event registry with
    ⟨position, response, first, found, answers⟩ | ⟨nowhere, answers⟩
  · have onlyHere {other : Nat} (otherFirst : FirstHolding platform event registry other) :
        other = position := otherFirst.unique first
    refine ⟨?_, ?_, ?_, ?_, answers.attempts_le_one, ?_, ?_⟩
    · intro name
      rw [answers.fired, Option.map_some, Option.some.injEq]
      constructor
      · exact fun same => ⟨position, response, first, found, same⟩
      · rintro ⟨other, otherResponse, otherFirst, otherFound, same⟩
        rw [onlyHere otherFirst, found, Option.some.injEq] at otherFound
        rw [otherFound, same]
    · rw [answers.fired]
      simp only [Option.map_some, reduceCtorEq, false_iff]
      exact fun nowhere => nowhere position first.1
    · exact fun _ _ otherFirst otherFound =>
        dispatch_of_first platform luck event registry otherFirst otherFound
    · exact fun nowhere => absurd first.1 (nowhere position)
    · rw [answers.checked, settings_checkedBefore]
    · rintro other otherResponse otherFound (disabled | ⟨earlier, below, earlierFirst⟩)
      · exact answers.unchanged otherFound (Or.inl disabled)
      · rw [onlyHere earlierFirst] at below
        exact answers.unchanged otherFound (Or.inr below)
  · refine ⟨?_, ?_, ?_, fun _ => answers, answers.attempts_le_one, ?_, ?_⟩
    · intro name
      rw [answers.fired]
      simp only [Option.map_none, reduceCtorEq, false_iff]
      rintro ⟨position, _, first, _⟩
      exact nowhere position first.1
    · rw [answers.fired]
      simpa using nowhere
    · exact fun position _ first => absurd first.1 (nowhere position)
    · rw [answers.checked, settings_checkedBefore]
    · rintro position response found (disabled | ⟨first, _, holding⟩)
      · exact answers.unchanged found (Or.inl disabled)
      · exact absurd holding.1 (nowhere first)

end AutoReply
