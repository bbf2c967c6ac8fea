import Mathlib.Data.List.Basic
import AutoReply.Proofs.HashMap
import AutoReply.Proofs.Registry.Settings
import AutoReply.Proofs.Rule.Chance

/-!
Saved settings put back: applied to the rules as they were defined, the settings captured of retuned
rules give the retuned rules again.
-/

namespace AutoReply

open AutoReply.Rule

namespace Rule.Response

def isPlain (response : Response) : Bool :=
  match response.kind with
  | .plain _ => true
  | _ => false

def unsupported (response : Response) : Skipped :=
  ⟨response.name, (StateError.unsupported response.name).message⟩

section

variable {response final : Response}

theorem name_of_untuned (untuned : final.untuned = response.untuned) :
    final.name = response.name := by
  show final.untuned.name = response.untuned.name
  rw [untuned]

theorem trigger_of_untuned (untuned : final.untuned = response.untuned) :
    final.trigger = response.trigger := by
  show final.untuned.trigger = response.untuned.trigger
  rw [untuned]

theorem kinds_of_untuned (untuned : final.untuned = response.untuned) :
    (∃ action, response.kind = .plain action ∧ final.kind = .plain action) ∨
    (∃ message react mode finalMode, response.kind = .sendOrReact message react mode ∧
      final.kind = .sendOrReact message react finalMode) ∨
    (∃ action chance finalChance, response.kind = .randomChance action chance ∧
      final.kind = .randomChance action finalChance) := by
  have same : final.kind.untuned = response.kind.untuned := by
    show final.untuned.kind = response.untuned.kind
    rw [untuned]
  cases kind : response.kind with
  | plain action =>
      cases finalKind : final.kind <;>
        simp only [kind, finalKind, ResponseKind.untuned, reduceCtorEq] at same
      exact .inl ⟨action, rfl, same⟩
  | sendOrReact message react mode =>
      cases finalKind : final.kind <;>
        simp only [kind, finalKind, ResponseKind.untuned, reduceCtorEq] at same
      injection same with messages reacts
      exact .inr (.inl ⟨message, react, mode, _, rfl, by rw [messages, reacts]⟩)
  | randomChance action chance =>
      cases finalKind : final.kind <;>
        simp only [kind, finalKind, ResponseKind.untuned, reduceCtorEq] at same
      injection same with actions
      exact .inr (.inr ⟨action, chance, _, rfl, by rw [actions]⟩)

/-- The state that a rule reports is accepted where the rule was defined, unless it is plain. -/
theorem setState_state (untuned : final.untuned = response.untuned)
    (probability : final.HasProbability) :
    response.setState final.state =
      if response.isPlain then .error (.unsupported response.name)
      else .ok { response with kind := final.kind } := by
  unfold setState state isPlain
  rcases kinds_of_untuned untuned with ⟨action, kind, finalKind⟩ |
    ⟨message, react, mode, finalMode, kind, finalKind⟩ |
    ⟨action, chance, finalChance, kind, finalKind⟩
  · rw [kind]
    rfl
  · rw [kind, finalKind]
    simp only [ReplyMode.ofText_text]
    rfl
  · have valid : isProbability finalChance = true := by
      refine probability finalChance ?_
      unfold chance?
      rw [finalKind]
    rw [kind, finalKind]
    simp only [chanceOfText_chanceText valid]
    rfl

theorem setEnabled_tuned_state (untuned : final.untuned = response.untuned)
    (probability : final.HasProbability) :
    (response.tuned final.state).setEnabled final.enabled = final := by
  have name := name_of_untuned untuned
  have trigger := trigger_of_untuned untuned
  have kept : response.isPlain = true → response.kind = final.kind := by
    intro plain
    rcases kinds_of_untuned untuned with ⟨action, kind, finalKind⟩ | ⟨_, _, _, _, kind, _⟩ |
      ⟨_, _, _, kind, _⟩
    · rw [kind, finalKind]
    · simp [isPlain, kind] at plain
    · simp [isPlain, kind] at plain
  unfold tuned
  rw [setState_state untuned probability]
  cases plain : response.isPlain with
  | true =>
      simp only [if_true]
      unfold setEnabled
      rw [kept plain, ← name, ← trigger]
  | false =>
      unfold setEnabled
      simp only [Bool.false_eq_true, if_false]
      rw [← name, ← trigger]

end

end Rule.Response

namespace Registry

theorem skipped_collect (steps : List Step) :
    (collect steps).2.1.skipped = steps.flatMap fun step => step.report.skipped := by
  unfold collect
  simp only
  induction steps with
  | nil => rfl
  | cons step steps ih =>
      rw [List.flatMap_cons, ← ih]
      rfl

theorem skipped_append (earlier later : BulkReport) :
    (earlier ++ later).skipped = earlier.skipped ++ later.skipped := rfl

theorem skipped_bulkApply {α : Type} (registry : Registry) (entries : HashMap String α)
    (apply : Response → α → Step) :
    (registry.bulkApply entries apply).2.1.skipped =
      (registry.responses.flatMap fun response =>
        (entryFor entries response.name).elim [] fun value => (apply response value).report.skipped) ++
        (registry.reportUnknown entries).1.skipped := by
  unfold bulkApply
  simp only [skipped_append, skipped_collect, List.flatMap_map]
  refine congrArg (· ++ _) (List.flatMap_congr ?_)
  intro response _
  cases entryFor entries response.name <;> rfl

theorem reportUnknown_of_known {α : Type} {registry : Registry} {entries : HashMap String α}
    (known : ∀ key ∈ entries.keys, key ∈ registry.responses.map Response.name) :
    (registry.reportUnknown entries).1.skipped = [] := by
  have none : entries.keys.filter (fun name => (registry.lookup name).isNone) = [] := by
    refine List.filter_eq_nil_iff.mpr ?_
    intro key member unknown
    obtain ⟨response, inside, same⟩ := List.mem_map.mp (known key member)
    unfold lookup at unknown
    rw [Option.isNone_iff_eq_none, List.find?_eq_none] at unknown
    refine unknown response inside ?_
    unfold Response.isNamed
    rw [same]
    exact beq_self_eq_true _
  unfold reportUnknown unknownKeys
  rw [none, List.mergeSort_nil]
  rfl

theorem entryFor_of_mem {α : Type} {entries : List (String × α)} {name : String} {value : α}
    (distinct : (entries.map Prod.fst).Nodup) (member : (name, value) ∈ entries) :
    entryFor (SortedMap.ofList entries).toHashMap name = some value := by
  unfold entryFor
  rw [SortedMap.lookup_toHashMap, SortedMap.lookup_ofList_of_mem distinct member]

section

variable {registry final : Registry}

theorem Retuned.names (retuned : Retuned registry final) :
    final.responses.map Response.name = registry.responses.map Response.name :=
  retuned.map_eq Response.name fun _ => rfl

theorem Retuned.counterpart (retuned : Retuned registry final) {position : Nat}
    {response : Response} (found : registry.responses[position]? = some response) :
    ∃ other, final.responses[position]? = some other ∧ other.untuned = response.untuned := by
  have same := congrArg (·[position]?) retuned.untuned
  simp only [List.getElem?_map, found, Option.map_some] at same
  exact Option.map_eq_some_iff.mp same

theorem entryFor_snapshot {α : Type} (view : Response → α)
    (distinct : (final.responses.map Response.name).Nodup) {response : Response}
    (member : response ∈ final.responses) :
    let views := final.responses.map fun response => (response.name, view response)
    entryFor (SortedMap.ofList views).toHashMap response.name = some (view response) := by
  refine entryFor_of_mem ?_ (List.mem_map.mpr ⟨response, member, rfl⟩)
  rw [List.map_map]
  exact distinct

theorem mem_keys_snapshot {α : Type} (view : Response → α) {key : String}
    (member : key ∈ (SortedMap.ofList
      (final.responses.map fun response => (response.name, view response))).keys) :
    key ∈ final.responses.map Response.name := by
  have listed := SortedMap.mem_keys_ofList member
  rw [List.map_map] at listed
  exact listed

end

end Registry

section

variable {registry final : Registry} (board : ClickBoard)

/-- What a rule and its retuned counterpart have to do with what is captured of the latter. -/
structure Counterpart (registry final : Registry) (response other : Response) : Prop where
  untuned : other.untuned = response.untuned
  probability : other.HasProbability
  state : Registry.entryFor final.snapshotStates.toHashMap response.name = some other.state
  enabled : Registry.entryFor final.snapshotEnabled.toHashMap response.name = some other.enabled

theorem exists_counterpart (retuned : Registry.Retuned registry final)
    (distinct : (registry.responses.map Response.name).Nodup)
    (probabilities : ∀ response ∈ registry.responses, response.HasProbability)
    {position : Nat} {response : Response}
    (found : registry.responses[position]? = some response) :
    ∃ other, final.responses[position]? = some other ∧
      Counterpart registry final response other := by
  obtain ⟨other, there, untuned⟩ := retuned.counterpart found
  have member := List.mem_of_getElem? there
  have finalDistinct : (final.responses.map Response.name).Nodup := by
    rw [retuned.names]
    exact distinct
  have name := Response.name_of_untuned untuned
  refine ⟨other, there, untuned, retuned.probabilities probabilities other member, ?_, ?_⟩
  · rw [← name]
    exact Registry.entryFor_snapshot Response.state finalDistinct member
  · rw [← name]
    exact Registry.entryFor_snapshot Response.enabled finalDistinct member

theorem SavedState.registry_apply_capture (retuned : Registry.Retuned registry final)
    (distinct : (registry.responses.map Response.name).Nodup)
    (probabilities : ∀ response ∈ registry.responses, response.HasProbability) :
    ((capture final board).apply registry).registry = final := by
  rw [registry_apply, Registry.registry_bulkSetEnabled, Registry.registry_bulkSetStates]
  -- Names are distinct, so the entries of a rule are those of the rule at its own position.
  refine congrArg Registry.mk (List.ext_getElem? fun position => ?_)
  simp only [List.map_map, List.getElem?_map]
  cases found : registry.responses[position]? with
  | none =>
      have short := congrArg List.length retuned.untuned
      rw [List.length_map, List.length_map] at short
      rw [Option.map_none, eq_comm, List.getElem?_eq_none_iff, short]
      exact List.getElem?_eq_none_iff.mp found
  | some response =>
      obtain ⟨other, there, counterpart⟩ := exists_counterpart retuned distinct probabilities found
      have name : (response.tuned other.state).name = response.name :=
        Response.name_of_untuned (Response.untuned_tuned response other.state)
      have tuned : (Registry.entryFor (capture final board).states.toHashMap response.name).elim response
          response.tuned = response.tuned other.state := by
        show (Registry.entryFor final.snapshotStates.toHashMap response.name).elim _ _ = _
        rw [counterpart.state, Option.elim_some]
      have enabled : Registry.entryFor (capture final board).enabled.toHashMap response.name =
          some other.enabled := counterpart.enabled
      rw [there, Option.map_some]
      simp only [Function.comp_apply, tuned, name, enabled, Option.elim_some]
      exact congrArg some
        (Response.setEnabled_tuned_state counterpart.untuned counterpart.probability)

theorem flatMap_if {α β : Type} (test : α → Bool) (view : α → β) (list : List α) :
    (list.flatMap fun element => if test element then [view element] else []) =
      (list.filter test).map view := by
  induction list with
  | nil => rfl
  | cons element rest ih =>
      rw [List.flatMap_cons, ih]
      cases passed : test element <;> simp [passed]

theorem skipped_tryState {response other : Response} (untuned : other.untuned = response.untuned)
    (probability : other.HasProbability) :
    (Registry.tryState response other.state).2.skipped =
      if response.isPlain then [response.unsupported] else [] := by
  unfold Registry.tryState
  rw [Response.setState_state untuned probability]
  cases response.isPlain <;> rfl

theorem skipped_bulkSetStates_snapshot (retuned : Registry.Retuned registry final)
    (distinct : (registry.responses.map Response.name).Nodup)
    (probabilities : ∀ response ∈ registry.responses, response.HasProbability) :
    (registry.bulkSetStates final.snapshotStates.toHashMap).2.1.skipped =
      (registry.responses.filter Response.isPlain).map Response.unsupported := by
  have known : ∀ key ∈ final.snapshotStates.toHashMap.keys,
      key ∈ registry.responses.map Response.name := by
    intro key member
    rw [SortedMap.keys_toHashMap] at member
    rw [← retuned.names]
    exact Registry.mem_keys_snapshot Response.state member
  unfold Registry.bulkSetStates
  rw [Registry.skipped_bulkApply, Registry.reportUnknown_of_known known, List.append_nil,
    ← flatMap_if]
  refine List.flatMap_congr ?_
  intro response member
  obtain ⟨position, found⟩ := List.mem_iff_getElem?.mp member
  obtain ⟨other, _, counterpart⟩ := exists_counterpart retuned distinct probabilities found
  rw [counterpart.state, Option.elim_some,
    ← skipped_tryState counterpart.untuned counterpart.probability]
  rcases Registry.tryState response other.state with ⟨_ | _, _⟩ <;> rfl

theorem skipped_bulkSetEnabled {entries : HashMap String Bool}
    (known : ∀ key ∈ entries.keys, key ∈ registry.responses.map Response.name) :
    (registry.bulkSetEnabled entries).2.1.skipped = [] := by
  unfold Registry.bulkSetEnabled
  rw [Registry.skipped_bulkApply, Registry.reportUnknown_of_known known, List.append_nil]
  refine List.flatMap_eq_nil_iff.mpr ?_
  intro response _
  cases Registry.entryFor entries response.name <;> rfl

/-- Restoring what was captured leaves out the states of the plain rules, and nothing else. -/
theorem SavedState.skipped_apply_capture (retuned : Registry.Retuned registry final)
    (distinct : (registry.responses.map Response.name).Nodup)
    (probabilities : ∀ response ∈ registry.responses, response.HasProbability) :
    ((capture final board).apply registry).states.skipped =
        (registry.responses.filter Response.isPlain).map Response.unsupported ∧
      ((capture final board).apply registry).enabled.skipped = [] := by
  refine ⟨skipped_bulkSetStates_snapshot retuned distinct probabilities, ?_⟩
  refine @skipped_bulkSetEnabled (registry.bulkSetStates final.snapshotStates.toHashMap).1
    final.snapshotEnabled.toHashMap ?_
  intro key member
  rw [SortedMap.keys_toHashMap] at member
  rw [(Registry.retuned_bulkSetStates registry _).names, ← retuned.names]
  exact Registry.mem_keys_snapshot Response.enabled member

end

end AutoReply
