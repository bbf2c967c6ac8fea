import AutoReply.Proofs.Dispatch.Luck

/-!
Disabled rules cannot be noticed. Without them, or with anything else in their places, the same rules
fire, the same things happen and the other rules keep the same records.
-/

namespace AutoReply

open AutoReply.Chat AutoReply.Rule

def rulesWithout (hidden : Nat → Bool) : List Response → List Response
  | [] => []
  | response :: rest =>
      let others := rulesWithout (fun position => hidden (position + 1)) rest
      if hidden 0 then others else response :: others

/-- Every rule at a hidden position is disabled. -/
def Dormant (hidden : Nat → Bool) (rules : List Response) : Prop :=
  ∀ position response, rules[position]? = some response → hidden position = true →
    response.enabled = false

namespace Registry

def without (registry : Registry) (hidden : Nat → Bool) : Registry :=
  ⟨rulesWithout hidden registry.responses⟩

def disguised (registry : Registry) (hidden : Nat → Bool) (substitute : Nat → Response) : Registry :=
  ⟨registry.responses.mapIdx fun position response =>
    if hidden position then (substitute position).setEnabled false else response⟩

end Registry

def Dispatched.without (outcome : Dispatched) (hidden : Nat → Bool) : Dispatched :=
  { outcome with registry := outcome.registry.without hidden }

theorem Dormant.tail {hidden : Nat → Bool} {response : Response} {rest : List Response}
    (dormant : Dormant hidden (response :: rest)) :
    Dormant (fun position => hidden (position + 1)) rest :=
  fun position other found isHidden =>
    dormant (position + 1) other (by simpa using found) isHidden

section

variable (platform : Platform) (luck : Luck) (event : MessageEvent)

theorem enabled_dispatchFrom (rules : List Response) :
    (dispatchFrom platform luck event rules).2.1.map Response.enabled =
      rules.map Response.enabled := by
  induction rules with
  | nil => rfl
  | cons response rest ih =>
      rw [dispatchFrom]
      split
      · simp
      · simp [ih]

theorem Dormant.dispatchFrom {hidden : Nat → Bool} {rules : List Response}
    (dormant : Dormant hidden rules) :
    Dormant hidden (dispatchFrom platform luck event rules).2.1 := by
  intro position response found isHidden
  have same := congrArg (·[position]?) (enabled_dispatchFrom platform luck event rules)
  simp only [List.getElem?_map, found, Option.map_some] at same
  obtain ⟨earlier, there, enabled⟩ := Option.map_eq_some_iff.mp same.symm
  rw [← enabled]
  exact dormant position earlier there isHidden

theorem dispatchFrom_rulesWithout {hidden : Nat → Bool} {rules : List Response}
    (dormant : Dormant hidden rules) :
    dispatchFrom platform luck event (rulesWithout hidden rules) =
      let (fired, later, trace) := dispatchFrom platform luck event rules
      (fired, rulesWithout hidden later, trace) := by
  induction rules generalizing hidden with
  | nil => rfl
  | cons response rest ih =>
      have others := ih dormant.tail
      by_cases isHidden : hidden 0 = true
      · -- The check of a disabled rule answers no, leaves the rule and does nothing.
        have disabled := dormant 0 response rfl isHidden
        simp only [rulesWithout, isHidden, if_true, others, dispatchFrom,
          Response.check_of_disabled platform event response disabled, Bool.false_eq_true, if_false,
          Trace.empty_append]
      · simp only [rulesWithout, isHidden, Bool.false_eq_true, if_false, dispatchFrom, others]
        split <;> simp [rulesWithout, isHidden]

theorem dispatch_without {hidden : Nat → Bool} {registry : Registry}
    (dormant : Dormant hidden registry.responses) :
    dispatch platform luck event (registry.without hidden) =
      (dispatch platform luck event registry).without hidden := by
  simp [dispatch, Registry.without, dispatchFrom_rulesWithout platform luck event dormant,
    Dispatched.without]

end

theorem dormant_answerAll {hidden : Nat → Bool} (turns : List Turn) {registry : Registry}
    (dormant : Dormant hidden registry.responses) :
    ∀ answered ∈ answerAll turns registry, Dormant hidden answered.outcome.registry.responses := by
  induction turns generalizing registry with
  | nil => simp [answerAll]
  | cons turn turns ih =>
      have next : Dormant hidden (turn.answer registry).outcome.registry.responses :=
        dormant.dispatchFrom turn.platform turn.luck turn.event
      exact List.forall_mem_cons.mpr ⟨next, ih next⟩

theorem outcomes_without {hidden : Nat → Bool} (turns : List Turn) {registry : Registry}
    (dormant : Dormant hidden registry.responses) :
    (answerAll turns (registry.without hidden)).map Answered.outcome =
      (answerAll turns registry).map fun answered => answered.outcome.without hidden := by
  induction turns generalizing registry with
  | nil => rfl
  | cons turn turns ih =>
      have first : (turn.answer (registry.without hidden)).outcome =
          (turn.answer registry).outcome.without hidden :=
        dispatch_without turn.platform turn.luck turn.event dormant
      have next : Dormant hidden (turn.answer registry).outcome.registry.responses :=
        dormant.dispatchFrom turn.platform turn.luck turn.event
      simp only [answerAll, List.map_cons, first]
      rw [← ih next]
      rfl

/-! Other rules in the hidden places. -/

theorem rulesWithout_mapIdx (hidden : Nat → Bool) (substitute : Nat → Response)
    (rules : List Response) :
    rulesWithout hidden (rules.mapIdx fun position response =>
        if hidden position then (substitute position).setEnabled false else response) =
      rulesWithout hidden rules := by
  induction rules generalizing hidden substitute with
  | nil => rfl
  | cons response rest ih =>
      have others := ih (fun position => hidden (position + 1)) fun position =>
        substitute (position + 1)
      by_cases isHidden : hidden 0 = true
      · simp [rulesWithout, List.mapIdx_cons, isHidden, others]
      · simp [rulesWithout, List.mapIdx_cons, isHidden, others]

theorem dormant_disguised (registry : Registry) (hidden : Nat → Bool)
    (substitute : Nat → Response) :
    Dormant hidden (registry.disguised hidden substitute).responses := by
  intro position response found isHidden
  simp only [Registry.disguised, List.getElem?_mapIdx, isHidden, if_true, Option.map_eq_some_iff]
    at found
  obtain ⟨_, _, rfl⟩ := found
  rfl

/-- Disabled rules stay disabled from message to message. Whether they are taken away or replaced by
any others that are disabled, every message has the same outcome: the same rule fires, the same
things happen on the way, and the rules that are not hidden keep the same records. -/
theorem disabled_never_noticed (turns : List Turn) (registry : Registry) (hidden : Nat → Bool)
    (dormant : Dormant hidden registry.responses) (substitute : Nat → Response) :
    let outcomes := (answerAll turns registry).map fun answered => answered.outcome.without hidden
    (answerAll turns (registry.without hidden)).map Answered.outcome = outcomes ∧
      ((answerAll turns (registry.disguised hidden substitute)).map fun answered =>
        answered.outcome.without hidden) = outcomes ∧
      ∀ answered ∈ answerAll turns registry,
        Dormant hidden answered.outcome.registry.responses := by
  intro outcomes
  refine ⟨outcomes_without turns dormant, ?_, dormant_answerAll turns dormant⟩
  have disguise : (registry.disguised hidden substitute).without hidden = registry.without hidden :=
    congrArg Registry.mk (rulesWithout_mapIdx hidden substitute registry.responses)
  rw [← outcomes_without turns (dormant_disguised registry hidden substitute), disguise]
  exact outcomes_without turns dormant

def hushedRules : Registry :=
  ⟨{ name := "loud", trigger := .predicate "loud" fun _ _ => true, kind := .plain .echo
     enabled := false } :: gamblingRules.responses⟩

theorem hushedRules_never_noticed :
    let turns := turnsAt 0 (fun _ => none) [10, 15, 16]
    Dormant (· == 0) hushedRules.responses ∧
      (answerAll turns gamblingRules).map Answered.outcome =
        (answerAll turns hushedRules).map (fun answered => answered.outcome.without (· == 0)) ∧
      (answerAll turns hushedRules).map (fun answered => answered.outcome.fired) =
        [some "meow", none, some "meow"] := by
  intro turns
  have dormant : Dormant (· == 0) hushedRules.responses := by
    intro position response found isHidden
    rw [eq_of_beq isHidden] at found
    cases found
    rfl
  exact ⟨dormant, (disabled_never_noticed turns hushedRules _ dormant fun _ =>
    .plain "quiet" (.anyOf []) .echo).1, by decide +kernel⟩

end AutoReply
