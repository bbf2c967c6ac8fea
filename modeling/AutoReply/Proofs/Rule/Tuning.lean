import AutoReply.Proofs.Dispatch.Luck
import AutoReply.Proofs.Registry.Restoring

/-!
Texts tried on one rule as its state. The last text that the rule accepts decides, and what it
accepts never depends on what was set before.
-/

namespace AutoReply

open AutoReply.Chat AutoReply.Number AutoReply.Text

def Number.Binary64.InUnitInterval (number : Binary64) : Prop :=
  ∃ value, number.value? = some value ∧ 0 ≤ value ∧ value ≤ 1

namespace Rule

theorem units_onePlace : units onePlace = unitsInOne := by
  decide +kernel

theorem isProbability_iff (chance : Binary64) :
    isProbability chance = true ↔ chance.InUnitInterval := by
  cases chance with
  | notANumber => simp [isProbability, Binary64.InUnitInterval, Binary64.value?]
  | infinite negative => simp [isProbability, Binary64.InUnitInterval, Binary64.value?]
  | finite negative place =>
      have small : place.val ≤ onePlace ↔ units place ≤ unitsInOne := by
        rw [← units_onePlace, units_strictMono.le_iff_le]
      have zero : place.val = 0 ↔ units place = 0 := units_strictMono.injective.eq_iff.symm
      have positive := unitsInOne_pos
      simp only [isProbability, Binary64.InUnitInterval, Binary64.value?, Option.some.injEq,
        exists_eq_left', Binary64.signedUnits]
      -- the count of units in one is too large to compute with
      generalize unitsInOne = one at small positive ⊢
      have positive : (0 : ℚ) < one := by exact_mod_cast positive
      simp only [le_div_iff₀ positive, div_le_one positive, zero_mul]
      cases negative with
      | false =>
          simp only [Bool.false_eq_true, if_false, decide_eq_true_eq, small]
          norm_cast
          simp
      | true =>
          simp only [if_true, beq_iff_eq, zero]
          norm_cast
          omega

namespace ResponseKind

inductive Reports : ResponseKind → String → Prop
  | plain {action : Action} : Reports (.plain action) "N/A"
  | message {message react : Action} : Reports (.sendOrReact message react .message) "message"
  | react {message react : Action} : Reports (.sendOrReact message react .react) "react"
  | chance {action : Action} {chance : Binary64} :
      chance.InUnitInterval → Reports (.randomChance action chance) (chanceText chance)

inductive Selects : ResponseKind → Action → Prop
  | plain {action : Action} : Selects (.plain action) action
  | message {message react : Action} : Selects (.sendOrReact message react .message) message
  | react {message react : Action} : Selects (.sendOrReact message react .react) react
  | chance {action : Action} {chance : Binary64} : Selects (.randomChance action chance) action

inductive Takes (text : String) : ResponseKind → ResponseKind → Prop
  | mode {message react : Action} {earlier mode : ReplyMode} :
      text = mode.text → Takes text (.sendOrReact message react earlier)
        (.sendOrReact message react mode)
  | chance {action : Action} {earlier chance : Binary64} :
      Binary64.ofText? (trim text.toList) = some chance → chance.InUnitInterval →
        Takes text (.randomChance action earlier) (.randomChance action chance)

/-- What is left of a kind after some texts: the setting of the last one that it takes. -/
inductive Settles (kind : ResponseKind) : List String → ResponseKind → Prop
  | unchanged {texts : List String} :
      (∀ text ∈ texts, ∀ next, ¬ Takes text kind next) → Settles kind texts kind
  | last {before after : List String} {text : String} {next : ResponseKind} :
      Takes text kind next → (∀ later ∈ after, ∀ other, ¬ Takes later kind other) →
        Settles kind (before ++ text :: after) next

variable {kind other next : ResponseKind} {text : String}

theorem Takes.of_untuned (same : other.untuned = kind.untuned) (takes : Takes text kind next) :
    Takes text other next := by
  cases takes with
  | mode isMode =>
      cases other <;> simp only [untuned, reduceCtorEq, sendOrReact.injEq, and_true] at same
      obtain ⟨rfl, rfl⟩ := same
      exact .mode isMode
  | chance read inside =>
      cases other <;> simp only [untuned, reduceCtorEq, randomChance.injEq, and_true] at same
      subst same
      exact .chance read inside

theorem Takes.untuned (takes : Takes text kind next) : next.untuned = kind.untuned := by
  cases takes <;> rfl

theorem Takes.unique (first : Takes text kind next) (second : Takes text kind other) :
    other = next := by
  cases first with
  | mode isMode =>
      cases second with
      | mode alsoMode =>
          have modes := (ReplyMode.ofText_eq_ok_iff.mpr alsoMode).symm.trans
            (ReplyMode.ofText_eq_ok_iff.mpr isMode)
          rw [Except.ok.inj modes]
  | chance read inside =>
      cases second with
      | chance alsoRead alsoInside => rw [Option.some.inj (alsoRead.symm.trans read)]

theorem Settles.refused {texts : List String} (settles : kind.Settles texts next)
    (refuses : ∀ other, ¬ Takes text kind other) : kind.Settles (texts ++ [text]) next := by
  cases settles with
  | unchanged untaken =>
      exact .unchanged (List.forall_mem_append.mpr
        ⟨untaken, List.forall_mem_singleton.mpr refuses⟩)
  | last takes untaken =>
      rw [List.append_assoc, List.cons_append]
      exact .last takes (List.forall_mem_append.mpr
        ⟨untaken, List.forall_mem_singleton.mpr refuses⟩)

@[simp] theorem label_untuned (kind : ResponseKind) : kind.untuned.label = kind.label := by
  cases kind <;> simp only [untuned, label]

end ResponseKind

namespace Response

variable {response changed : Response} {text : String}

theorem setState_eq_ok_iff :
    response.setState text = .ok changed ↔
      ∃ next, ResponseKind.Takes text response.kind next ∧
        changed = { response with kind := next } := by
  constructor
  · intro accepted
    rcases setState_eq_ok accepted with
      ⟨message, react, mode, selected, kind, parsed, rfl⟩ |
      ⟨action, chance, selected, kind, parsed, rfl⟩
    · exact ⟨_, kind ▸ .mode (ReplyMode.ofText_eq_ok_iff.mp parsed), rfl⟩
    · obtain ⟨read, probability⟩ := chanceOfText_eq_ok_iff.mp parsed
      exact ⟨_, kind ▸ .chance read ((isProbability_iff selected).mp probability), rfl⟩
  · rintro ⟨next, takes, rfl⟩
    generalize kind : response.kind = earlier at takes
    cases takes with
    | mode isMode =>
        simp [setState, kind, ReplyMode.ofText_eq_ok_iff.mpr isMode, Except.map]
    | chance read inside =>
        have parsed := chanceOfText_eq_ok_iff.mpr ⟨read, (isProbability_iff _).mpr inside⟩
        simp [setState, kind, parsed, Except.map]

theorem tuned_of_takes {next : ResponseKind} (takes : ResponseKind.Takes text response.kind next) :
    response.tuned text = { response with kind := next } := by
  rw [tuned, setState_eq_ok_iff.mpr ⟨next, takes, rfl⟩]

theorem tuned_of_error {error : StateError} (refused : response.setState text = .error error) :
    response.tuned text = response := by
  rw [tuned, refused]

theorem not_takes_of_error {error : StateError} (refused : response.setState text = .error error)
    (next : ResponseKind) : ¬ ResponseKind.Takes text response.kind next := by
  intro takes
  rw [setState_eq_ok_iff.mpr ⟨next, takes, rfl⟩] at refused
  contradiction

def tunedByEach (response : Response) (texts : List String) : Response :=
  texts.foldl tuned response

theorem tunedByEach_concat (response : Response) (texts : List String) (text : String) :
    response.tunedByEach (texts ++ [text]) = (response.tunedByEach texts).tuned text := by
  simp [tunedByEach]

theorem untuned_tunedByEach (response : Response) (texts : List String) :
    (response.tunedByEach texts).untuned = response.untuned := by
  induction texts using List.reverseRecOn with
  | nil => rfl
  | append_singleton texts text ih => rw [tunedByEach_concat, untuned_tuned, ih]

theorem hasProbability_tunedByEach (probability : response.HasProbability) (texts : List String) :
    (response.tunedByEach texts).HasProbability := by
  induction texts using List.reverseRecOn with
  | nil => exact probability
  | append_singleton texts text ih =>
      rw [tunedByEach_concat]
      exact hasProbability_tuned text ih

theorem settles_tunedByEach (response : Response) (texts : List String) :
    response.tunedByEach texts =
        { response with kind := (response.tunedByEach texts).kind } ∧
      response.kind.Settles texts (response.tunedByEach texts).kind := by
  induction texts using List.reverseRecOn with
  | nil => exact ⟨rfl, .unchanged (List.forall_mem_nil _)⟩
  | append_singleton texts text ih =>
      obtain ⟨same, settles⟩ := ih
      have untuned := congrArg Response.kind (untuned_tunedByEach response texts)
      rw [tunedByEach_concat]
      cases tried : (response.tunedByEach texts).setState text with
      | ok changed =>
          obtain ⟨next, takes, _⟩ := setState_eq_ok_iff.mp tried
          rw [tuned_of_takes takes, same]
          exact ⟨rfl, .last (takes.of_untuned untuned.symm) (List.forall_mem_nil _)⟩
      | error error =>
          have refuses (next : ResponseKind) : ¬ ResponseKind.Takes text response.kind next :=
            fun takes => not_takes_of_error tried next (takes.of_untuned untuned)
          rw [tuned_of_error tried]
          exact ⟨same, settles.refused refuses⟩

def settled? (response : Response) (text : String) :
    Option (String × Option ReplyMode × Option Binary64) :=
  (response.setState text).toOption.map fun changed =>
    (changed.state, changed.mode?, changed.chance?)

theorem settled?_congr {other : Response} (same : other.kind.label = response.kind.label)
    (text : String) : other.settled? text = response.settled? text := by
  unfold settled? setState
  cases kind : response.kind <;> cases otherKind : other.kind <;>
    simp only [kind, otherKind, ResponseKind.label, String.reduceEq] at same
  case plain.plain => rfl
  case sendOrReact.sendOrReact => cases ReplyMode.ofText text <;> rfl
  case randomChance.randomChance => cases chanceOfText text <;> rfl

/-- Rules as they are made: a chance is checked first, and a rule may be turned off at once. -/
inductive Made : Response → Prop
  | plain (name : String) (trigger : Trigger) (action : Action) : Made (.plain name trigger action)
  | sendOrReact (name : String) (trigger : Trigger) (message : String) (emoji : EmojiId)
      (mode : ReplyMode) : Made (.sendOrReact name trigger message emoji mode)
  | randomChance {name : String} {trigger : Trigger} {action : Action} {chance : Binary64}
      {response : Response} :
      Response.randomChance name trigger action chance = .ok response → Made response
  | disabled {response : Response} : Made response → Made (response.setEnabled false)

theorem Made.hasProbability (made : Made response) : response.HasProbability := by
  intro chance found
  induction made with
  | plain => simp [chance?, Response.plain] at found
  | sendOrReact => simp [chance?, Response.sendOrReact] at found
  | @randomChance name trigger action given response accepted =>
      unfold Response.randomChance at accepted
      cases checked : validChance given with
      | error error => simp [checked, Except.map] at accepted
      | ok valid =>
          simp only [checked, Except.map, Except.ok.injEq] at accepted
          subst accepted
          cases found
          obtain ⟨rfl, probability⟩ := validChance_eq_ok_iff.mp checked
          exact probability
  | disabled _ ih => exact ih found

theorem reports_state (probability : response.HasProbability) :
    response.kind.Reports response.state := by
  unfold state
  cases kind : response.kind with
  | plain action => exact .plain
  | sendOrReact message react mode =>
      cases mode with
      | message => exact .message
      | react => exact .react
  | randomChance action chance =>
      exact .chance ((isProbability_iff chance).mp (probability chance (by rw [chance?, kind])))

theorem selects_activeAction (response : Response) :
    response.kind.Selects response.activeAction := by
  unfold activeAction
  cases response.kind with
  | plain action => exact .plain
  | sendOrReact message react mode =>
      cases mode with
      | message => exact .message
      | react => exact .react
  | randomChance action chance => exact .chance

theorem isPlain_of_untuned {other : Response} (untuned : other.untuned = response.untuned) :
    other.isPlain = response.isPlain := by
  unfold isPlain
  rcases kinds_of_untuned untuned with ⟨_, kind, otherKind⟩ | ⟨_, _, _, _, kind, otherKind⟩ |
    ⟨_, _, _, kind, otherKind⟩ <;>
    rw [kind, otherKind]

theorem apply_of_lucky {luck : Luck}
    (lucky : ∀ chance, response.chance? = some chance → ¬ luck.AtOrAbove chance)
    (platform : Platform) (event : MessageEvent) :
    response.apply platform luck event = response.activeAction.apply platform luck event := by
  unfold apply
  split
  next action chance kind =>
    have succeeds := (rollSucceeds_iff luck chance).mpr (lucky chance (by rw [chance?, kind]))
    rw [if_pos succeeds, activeAction, kind]
  next => rfl

end Response

open Response in
/-- Whatever texts are tried on a rule as its state, only its setting changes. It becomes what the
last accepted text stands for, which the texts before have no part in, and it is valid, reported by
a text that is accepted for it, and decides which action the rule runs. -/
theorem last_accepted_text_decides {response : Response} (made : Made response)
    (texts : List String) :
    let now := response.tunedByEach texts
    now.kind.Reports now.state ∧ now = { response with kind := now.kind } ∧
      response.kind.Settles texts now.kind ∧
      (∀ text changed, now.setState text = .ok changed ↔
        ∃ next, ResponseKind.Takes text response.kind next ∧
          changed = { now with kind := next }) ∧
      (∀ text error, now.setState text = .error error → now.tuned text = now) ∧
      (∀ (other : Response) text, other.kind.label = response.kind.label →
        other.settled? text = now.settled? text) ∧
      (response.isPlain = false → now.setState now.state = .ok now) ∧
      now.kind.Selects now.activeAction ∧
      ∀ luck, (∀ chance, now.chance? = some chance → ¬ luck.AtOrAbove chance) →
        ∀ platform event,
          now.apply platform luck event = now.activeAction.apply platform luck event := by
  intro now
  have untuned := untuned_tunedByEach response texts
  have kinds : now.kind.untuned = response.kind.untuned := congrArg Response.kind untuned
  have probability := hasProbability_tunedByEach made.hasProbability texts
  obtain ⟨same, settles⟩ := settles_tunedByEach response texts
  refine ⟨reports_state probability, same, settles, fun text changed => ?_, fun text error =>
    tuned_of_error, fun other text label => ?_, fun tunable => ?_, selects_activeAction now,
    fun luck lucky => apply_of_lucky lucky⟩
  · rw [setState_eq_ok_iff]
    refine exists_congr fun next => and_congr_left fun _ => ?_
    exact ⟨fun takes => takes.of_untuned kinds.symm, fun takes => takes.of_untuned kinds⟩
  · have labels := congrArg ResponseKind.label kinds
    rw [ResponseKind.label_untuned, ResponseKind.label_untuned] at labels
    exact settled?_congr (label.trans labels.symm) text
  · have accepted : now.setState now.state = _ := setState_state rfl probability
    rwa [isPlain_of_untuned untuned, tunable] at accepted

def moodyRule : Response :=
  { name := "meow", trigger := .containing ["meow"], kind := .randomChance .echo defaultChance }

theorem moodyRule_follows_texts :
    let now := moodyRule.tunedByEach [" 0.25", "NaN", "-0", "1.5", "react"]
    Response.Made moodyRule ∧ now.state = "-0.0" ∧ now.kind.Reports "-0.0" ∧
      now.setState "-0.0" = .ok now := by
  intro now
  have made : Response.Made moodyRule := by
    have valid : validChance defaultChance = .ok defaultChance :=
      validChance_eq_ok_iff.mpr ⟨rfl, by decide +kernel⟩
    have checked : Response.randomChance "meow" (.containing ["meow"]) .echo defaultChance =
        .ok moodyRule := by
      rw [Response.randomChance, valid]
      rfl
    exact .randomChance checked
  have shown : now.state = "-0.0" := by decide +kernel
  have all := last_accepted_text_decides made [" 0.25", "NaN", "-0", "1.5", "react"]
  refine ⟨made, shown, ?_, ?_⟩
  · rw [← shown]
    exact all.1
  · rw [← shown]
    exact all.2.2.2.2.2.2.1 rfl

end Rule

end AutoReply
