import AutoReply.Proofs.Rule.Chance
import AutoReply.SavedState

/-!
What operators can do to the rules. Whatever they set, a rule keeps its name, its condition with all
records in it, and its actions, and a chance stays a probability.
-/

namespace AutoReply

namespace Rule

def ResponseKind.untuned : ResponseKind → ResponseKind
  | plain action => plain action
  | sendOrReact message react _ => sendOrReact message react .message
  | randomChance action _ => randomChance action defaultChance

namespace Response

/-- The rule with all that operators can set put back. -/
def untuned (response : Response) : Response :=
  { response with kind := response.kind.untuned, enabled := true }

def HasProbability (response : Response) : Prop :=
  ∀ chance, response.chance? = some chance → isProbability chance = true

theorem setState_eq_ok {response changed : Response} {state : String}
    (accepted : response.setState state = .ok changed) :
    (∃ message react mode selected, response.kind = .sendOrReact message react mode ∧
      ReplyMode.ofText state = .ok selected ∧
      changed = { response with kind := .sendOrReact message react selected }) ∨
    (∃ action chance selected, response.kind = .randomChance action chance ∧
      chanceOfText state = .ok selected ∧
      changed = { response with kind := .randomChance action selected }) := by
  unfold setState at accepted
  split at accepted
  next => contradiction
  next message react mode kind =>
    cases parsed : ReplyMode.ofText state with
    | error error => simp [parsed, Except.map] at accepted
    | ok selected =>
        simp only [parsed, Except.map, Except.ok.injEq] at accepted
        exact Or.inl ⟨message, react, mode, selected, kind, rfl, accepted.symm⟩
  next action chance kind =>
    cases parsed : chanceOfText state with
    | error error => simp [parsed, Except.map] at accepted
    | ok selected =>
        simp only [parsed, Except.map, Except.ok.injEq] at accepted
        exact Or.inr ⟨action, chance, selected, kind, rfl, accepted.symm⟩

theorem untuned_setState {response changed : Response} {state : String}
    (accepted : response.setState state = .ok changed) : changed.untuned = response.untuned := by
  rcases setState_eq_ok accepted with
    ⟨message, react, mode, selected, kind, _, rfl⟩ | ⟨action, chance, selected, kind, _, rfl⟩
  · simp [untuned, kind, ResponseKind.untuned]
  · simp [untuned, kind, ResponseKind.untuned]

theorem hasProbability_setState {response changed : Response} {state : String}
    (accepted : response.setState state = .ok changed) : changed.HasProbability := by
  intro other found
  rcases setState_eq_ok accepted with
    ⟨message, react, mode, selected, kind, _, rfl⟩ | ⟨action, chance, selected, kind, parsed, rfl⟩
  · simp [chance?] at found
  · simp only [chance?, Option.some.injEq] at found
    exact found ▸ (chanceOfText_eq_ok_iff.mp parsed).2

theorem untuned_setEnabled (response : Response) (enabled : Bool) :
    (response.setEnabled enabled).untuned = response.untuned := rfl

theorem untuned_tuned (response : Response) (state : String) :
    (response.tuned state).untuned = response.untuned := by
  unfold tuned
  split
  next accepted => exact untuned_setState accepted
  next => rfl

theorem hasProbability_tuned {response : Response} (state : String)
    (probability : response.HasProbability) : (response.tuned state).HasProbability := by
  unfold tuned
  split
  next accepted => exact hasProbability_setState accepted
  next => exact probability

end Response

end Rule

open AutoReply.Rule

namespace Registry

/-- `later` has the rules of `earlier` with other settings. -/
structure Retuned (earlier later : Registry) : Prop where
  untuned : later.responses.map Response.untuned = earlier.responses.map Response.untuned
  probabilities : (∀ response ∈ earlier.responses, response.HasProbability) →
    ∀ response ∈ later.responses, response.HasProbability

theorem Retuned.refl (registry : Registry) : Retuned registry registry :=
  ⟨rfl, id⟩

theorem Retuned.trans {first second third : Registry} (earlier : Retuned first second)
    (later : Retuned second third) : Retuned first third :=
  ⟨later.untuned.trans earlier.untuned, later.probabilities ∘ earlier.probabilities⟩

theorem Retuned.map_eq {earlier later : Registry} (retuned : Retuned earlier later) {α : Type}
    (view : Response → α) (blind : ∀ response, view response.untuned = view response) :
    later.responses.map view = earlier.responses.map view := by
  have same := congrArg (List.map view) retuned.untuned
  simpa only [List.map_map, Function.comp_def, blind] using same

theorem retuned_map (registry : Registry) (change : Response → Response)
    (untuned : ∀ response, (change response).untuned = response.untuned)
    (probability : ∀ response, response.HasProbability → (change response).HasProbability) :
    Retuned registry ⟨registry.responses.map change⟩ := by
  constructor
  · simp [List.map_map, Function.comp_def, untuned]
  · intro probabilities response member
    obtain ⟨original, inside, rfl⟩ := List.mem_map.mp member
    exact probability original (probabilities original inside)

theorem replace_append {name : String} {before : List Response} {response : Response}
    (after : List Response) (changed : Response) (named : response.isNamed name = true)
    (unnamed : ∀ other ∈ before, other.isNamed name = false) :
    (replace ⟨before ++ response :: after⟩ name changed).responses = before ++ changed :: after := by
  simp only [replace]
  induction before with
  | nil => simp [changeFirst, named]
  | cons other before ih =>
      have first : other.isNamed name = false := unnamed other (by simp)
      have rest := ih fun later member => unnamed later (by simp [member])
      simp [changeFirst, first, rest]

theorem replace_split {registry : Registry} {name : String} {response : Response}
    (changed : Response) (found : registry.lookup name = some response) :
    ∃ before after, registry.responses = before ++ response :: after ∧
      response.isNamed name = true ∧ (∀ other ∈ before, other.isNamed name = false) ∧
      (registry.replace name changed).responses = before ++ changed :: after := by
  obtain ⟨named, before, after, split, unnamed⟩ := List.find?_eq_some_iff_append.mp found
  have unnamedBefore : ∀ other ∈ before, other.isNamed name = false := by
    intro other member
    simpa using unnamed other member
  refine ⟨before, after, split, named, unnamedBefore, ?_⟩
  cases registry
  cases split
  exact replace_append after changed named unnamedBefore

theorem retuned_replace {registry : Registry} {name : String} {response changed : Response}
    (found : registry.lookup name = some response) (untuned : changed.untuned = response.untuned)
    (probability : response.HasProbability → changed.HasProbability) :
    Retuned registry (registry.replace name changed) := by
  obtain ⟨before, after, split, _, _, replaced⟩ := replace_split changed found
  constructor
  · simp [split, replaced, untuned]
  · intro probabilities other member
    rw [replaced] at member
    rw [split] at probabilities
    rcases List.mem_append.mp member with inside | inside
    · exact probabilities other (by simp [inside])
    · rcases List.mem_cons.mp inside with same | later
      · exact same ▸ probability (probabilities response (by simp))
      · exact probabilities other (by simp [later])

theorem setState_eq_ok {registry next : Registry} {name state : String}
    (accepted : registry.setState name state = .ok next) :
    ∃ response changed, registry.lookup name = some response ∧
      response.setState state = .ok changed ∧ next = registry.replace name changed := by
  unfold setState get at accepted
  cases found : registry.lookup name with
  | none => simp [found] at accepted
  | some response =>
      cases tried : response.setState state with
      | error error => simp [found, tried] at accepted
      | ok changed =>
          simp only [found, tried, Except.ok.injEq] at accepted
          exact ⟨response, changed, rfl, tried, accepted.symm⟩

theorem setEnabled_eq_ok {registry next : Registry} {name : String} {enabled : Bool}
    (accepted : registry.setEnabled name enabled = .ok next) :
    ∃ response, registry.lookup name = some response ∧
      next = registry.replace name (response.setEnabled enabled) := by
  unfold setEnabled get at accepted
  cases found : registry.lookup name with
  | none => simp [found, Except.map] at accepted
  | some response =>
      simp only [found, Except.map, Except.ok.injEq] at accepted
      exact ⟨response, rfl, accepted.symm⟩

theorem retuned_setState {registry next : Registry} {name state : String}
    (accepted : registry.setState name state = .ok next) : Retuned registry next := by
  obtain ⟨response, changed, found, tried, rfl⟩ := setState_eq_ok accepted
  exact retuned_replace found (Response.untuned_setState tried)
    fun _ => Response.hasProbability_setState tried

theorem retuned_setEnabled {registry next : Registry} {name : String} {enabled : Bool}
    (accepted : registry.setEnabled name enabled = .ok next) : Retuned registry next := by
  obtain ⟨response, found, rfl⟩ := setEnabled_eq_ok accepted
  exact retuned_replace found (Response.untuned_setEnabled response enabled) id

theorem registry_bulkSetStates (registry : Registry) (states : HashMap String String) :
    (registry.bulkSetStates states).1 = ⟨registry.responses.map fun response =>
      (entryFor states response.name).elim response response.tuned⟩ := by
  simp only [bulkSetStates, bulkApply, collect, List.map_map, Registry.mk.injEq]
  apply List.map_congr_left
  intro response _
  simp only [Function.comp_apply]
  cases entryFor states response.name with
  | none => rfl
  | some state =>
      simp only [tryState, Response.tuned, Option.elim_some]
      cases response.setState state <;> rfl

theorem registry_bulkSetEnabled (registry : Registry) (flags : HashMap String Bool) :
    (registry.bulkSetEnabled flags).1 = ⟨registry.responses.map fun response =>
      (entryFor flags response.name).elim response response.setEnabled⟩ := by
  simp only [bulkSetEnabled, bulkApply, collect, List.map_map, Registry.mk.injEq]
  apply List.map_congr_left
  intro response _
  simp only [Function.comp_apply]
  cases entryFor flags response.name <;> rfl

theorem registry_setAllStates (registry : Registry) (state : String) :
    (registry.setAllStates state).1 =
      ⟨registry.responses.map fun response => response.tuned state⟩ := by
  simp only [setAllStates, collect, List.map_map, Registry.mk.injEq]
  apply List.map_congr_left
  intro response _
  simp only [Function.comp_apply, tryState, Response.tuned]
  cases response.setState state <;> rfl

theorem retuned_bulkSetStates (registry : Registry) (states : HashMap String String) :
    Retuned registry (registry.bulkSetStates states).1 := by
  rw [registry_bulkSetStates]
  apply retuned_map
  · intro response
    cases entryFor states response.name with
    | none => rfl
    | some state => exact Response.untuned_tuned response state
  · intro response probability
    cases entryFor states response.name with
    | none => exact probability
    | some state => exact Response.hasProbability_tuned state probability

theorem retuned_bulkSetEnabled (registry : Registry) (flags : HashMap String Bool) :
    Retuned registry (registry.bulkSetEnabled flags).1 := by
  rw [registry_bulkSetEnabled]
  apply retuned_map
  · intro response
    cases entryFor flags response.name <;> rfl
  · intro response probability
    cases entryFor flags response.name <;> exact probability

theorem retuned_setAllStates (registry : Registry) (state : String) :
    Retuned registry (registry.setAllStates state).1 := by
  rw [registry_setAllStates]
  exact retuned_map registry _ (fun response => Response.untuned_tuned response state)
    fun _ probability => Response.hasProbability_tuned state probability

theorem retuned_setAllEnabled (registry : Registry) (enabled : Bool) :
    Retuned registry (registry.setAllEnabled enabled) :=
  retuned_map registry _ (fun response => Response.untuned_setEnabled response enabled)
    fun _ probability => probability

end Registry

theorem SavedState.registry_apply (saved : SavedState) (registry : Registry) :
    (saved.apply registry).registry =
      ((registry.bulkSetStates saved.states.toHashMap).1.bulkSetEnabled
        saved.enabled.toHashMap).1 := rfl

theorem SavedState.retuned_apply (saved : SavedState) (registry : Registry) :
    Registry.Retuned registry (saved.apply registry).registry := by
  rw [registry_apply]
  exact (Registry.retuned_bulkSetStates registry _).trans
    (Registry.retuned_bulkSetEnabled _ _)

end AutoReply
