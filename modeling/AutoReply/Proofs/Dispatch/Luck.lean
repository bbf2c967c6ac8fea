import Mathlib.Algebra.Order.Ring.Rat
import Mathlib.Data.Rat.Cast.Order
import Mathlib.Tactic.Linarith
import Mathlib.Tactic.Positivity
import AutoReply.Proofs.Dispatch.FirstMatch

/-!
Luck and failed effects. They decide which effects happen and nothing else: which rules fire, what
is asked on the way and what is left behind is the same whatever the draws are and whatever fails.
-/

namespace AutoReply

open AutoReply.Chat AutoReply.Number AutoReply.Rule

namespace Rule

def Luck.draw (luck : Luck) : ℚ :=
  luck.roll.val / 0x20000000000000

theorem Luck.draw_nonneg (luck : Luck) : 0 ≤ luck.draw := by
  unfold draw
  positivity

theorem Luck.draw_lt_one (luck : Luck) : luck.draw < 1 := by
  unfold draw
  rw [div_lt_one (by norm_num)]
  exact_mod_cast luck.roll.isLt

end Rule

def Number.Binary64.value? : Binary64 → Option ℚ
  | .finite negative place => some (signedUnits negative place / unitsInOne)
  | _ => none

def Rule.Luck.AtOrAbove (luck : Luck) (chance : Binary64) : Prop :=
  chance.value?.elim (chance = .infinite true) (· ≤ luck.draw)

theorem unitsInOne_eq : unitsInOne = Nat.pow 2 1021 * 0x20000000000000 := by
  decide +kernel

theorem value_le_draw_iff (luck : Luck) (units : Int) :
    (units / unitsInOne : ℚ) ≤ luck.draw ↔ units ≤ luck.roll.val * Nat.pow 2 1021 := by
  have positive : ∀ exponent, 0 < Nat.pow 2 exponent := Nat.two_pow_pos
  have factorNonzero := positive 1021
  rw [unitsInOne_eq]
  unfold Luck.draw
  generalize Nat.pow 2 1021 = factor at factorNonzero ⊢
  have factorPositive : (0 : ℚ) < factor := by exact_mod_cast factorNonzero
  push_cast
  rw [div_le_div_iff₀ (by positivity) (by positivity), ← mul_assoc,
    mul_le_mul_iff_left₀ (by norm_num)]
  exact_mod_cast Iff.rfl

theorem rollSucceeds_iff (luck : Luck) (chance : Binary64) :
    Response.rollSucceeds luck chance = true ↔ ¬ luck.AtOrAbove chance := by
  cases chance with
  | notANumber => simp [Response.rollSucceeds, Luck.AtOrAbove, Binary64.value?]
  | infinite negative => simp [Response.rollSucceeds, Luck.AtOrAbove, Binary64.value?]
  | finite negative place =>
      simp only [Luck.AtOrAbove, Binary64.value?, Option.elim_some, value_le_draw_iff,
        Response.rollSucceeds, Binary64.signedUnits]
      generalize Nat.pow 2 1021 = factor
      cases negative with
      | false =>
          have same : ((luck.roll.val : Int) * factor) = (luck.roll.val * factor : Nat) := by simp
          simp only [same, Bool.not_false, Bool.true_and, decide_eq_true_eq, Bool.false_eq_true,
            if_false, not_le]
          omega
      | true =>
          have nonneg : (0 : Int) ≤ luck.roll.val * factor := by positivity
          simp only [Bool.not_true, Bool.false_and, if_true, Bool.false_eq_true, false_iff,
            not_not]
          omega

structure Turn where
  platform : Platform
  luck : Luck
  event : MessageEvent

/-- The same message to the same bot with the same past; draws and failures may differ. -/
structure Turn.AlikeButLuck (turn other : Turn) : Prop where
  bot : other.platform.toBot = turn.platform.toBot
  past : other.platform.precedingAuthor = turn.platform.precedingAuthor
  event : other.event = turn.event

structure Answered where
  turn : Turn
  earlier : Registry
  outcome : Dispatched

def Turn.answer (registry : Registry) (turn : Turn) : Answered :=
  ⟨turn, registry, dispatch turn.platform turn.luck turn.event registry⟩

def answerAll : List Turn → Registry → List Answered
  | [], _ => []
  | turn :: turns, registry =>
      turn.answer registry :: answerAll turns (turn.answer registry).outcome.registry

theorem selections_answerAll {turns others : List Turn}
    (alike : List.Forall₂ Turn.AlikeButLuck turns others) (registry : Registry) :
    (answerAll others registry).map (fun answered => answered.outcome.selection) =
      (answerAll turns registry).map fun answered => answered.outcome.selection := by
  induction alike generalizing registry with
  | nil => rfl
  | @cons turn other turns others alike _ ih =>
      have first : (other.answer registry).outcome.selection =
          (turn.answer registry).outcome.selection := by
        unfold Turn.answer
        rw [alike.event]
        exact selection_dispatch alike.bot alike.past turn.luck other.luck turn.event registry
      have next : (other.answer registry).outcome.registry =
          (turn.answer registry).outcome.registry := congrArg Selection.registry first
      simp only [answerAll, List.map_cons, first, next, ih]

theorem mem_answerAll {turns : List Turn} {registry : Registry} {answered : Answered}
    (member : answered ∈ answerAll turns registry) :
    ∃ earlier, answered = answered.turn.answer earlier := by
  induction turns generalizing registry with
  | nil => simp [answerAll] at member
  | cons turn turns ih =>
      rcases List.mem_cons.mp member with first | later
      · exact ⟨registry, by rw [first]; rfl⟩
      · exact ih later

/-! A rule whose roll succeeds does what it would do without a chance. -/

def Rule.Response.certain (action : Action) (response : Response) : Response :=
  { response with kind := .plain action }

def Registry.certainAt (registry : Registry) (position : Nat) (action : Action) : Registry :=
  ⟨registry.responses.modify position (Response.certain action)⟩

theorem check_certain (platform : Platform) (event : MessageEvent) (response : Response)
    (action : Action) :
    (response.certain action).check platform event =
      (response.check platform event).map (Response.certain action) := by
  cases enabled : response.enabled <;>
    simp [Response.check, Response.certain, enabled, Checked.map]

theorem fire_certain (platform : Platform) {luck : Luck} (event : MessageEvent)
    {response : Response} {action : Action} {chance : Binary64}
    (kind : response.kind = .randomChance action chance) (below : ¬ luck.AtOrAbove chance) :
    fire platform luck event (response.certain action) = fire platform luck event response := by
  have succeeds := (rollSucceeds_iff luck chance).mpr below
  simp [fire, matchedEntry, failedEntry, Response.apply, Response.activeAction, Response.certain,
    kind, succeeds]

def Registry.HasChance (registry : Registry) (position : Nat) (action : Action)
    (chance : Binary64) : Prop :=
  ∃ response, registry.responses[position]? = some response ∧
    response.kind = .randomChance action chance

theorem dispatch_certainAt (platform : Platform) {luck : Luck} (event : MessageEvent)
    {registry : Registry} {position : Nat} {action : Action} {chance : Binary64}
    (chances : registry.HasChance position action chance) (below : ¬ luck.AtOrAbove chance) :
    let outcome := dispatch platform luck event registry
    dispatch platform luck event (registry.certainAt position action) =
      ⟨outcome.fired, outcome.registry.certainAt position action, outcome.trace⟩ := by
  obtain ⟨response, found, kind⟩ := chances
  have same (responses : List Response) (position : Nat)
      (found : responses[position]? = some response) :
      let outcome := dispatchFrom platform luck event responses
      dispatchFrom platform luck event (responses.modify position (Response.certain action)) =
        (outcome.1, outcome.2.1.modify position (Response.certain action), outcome.2.2) := by
    induction responses generalizing position with
    | nil => simp at found
    | cons first rest ih =>
        cases position with
        | zero =>
            rw [List.getElem?_cons_zero, Option.some.injEq] at found
            have kindNext : (response.check platform event).next.kind =
                .randomChance action chance := by rw [Response.kind_check, kind]
            simp only [found, List.modify_zero_cons, dispatchFrom, check_certain, Checked.map,
              fire_certain platform event kindNext below]
            split <;> rfl
        | succ position =>
            have later := ih position (by simpa using found)
            simp only [List.modify_succ_cons, dispatchFrom]
            split
            · rfl
            · simp [later]
  simp [dispatch, Registry.certainAt, same registry.responses position found]

theorem attempts_of_atOrAbove {platform : Platform} {luck : Luck} {event : MessageEvent}
    {registry : Registry} {position : Nat} {action : Action} {chance : Binary64}
    (first : FirstHolding platform event registry position)
    (chances : registry.HasChance position action chance) (above : luck.AtOrAbove chance) :
    (dispatch platform luck event registry).trace.attempts = [] := by
  obtain ⟨response, found, kind⟩ := chances
  have fails : Response.rollSucceeds luck chance = false := by
    rw [← Bool.not_eq_true, rollSucceeds_iff]
    exact fun below => below above
  rw [(dispatch_of_first platform luck event registry first found).attempts]
  simp [Response.apply, kind, fails]

theorem atOrAbove_of_zero (luck : Luck) {chance : Binary64} (zero : chance.value? = some 0) :
    luck.AtOrAbove chance := by
  unfold Luck.AtOrAbove
  rw [zero]
  exact luck.draw_nonneg

theorem not_atOrAbove_of_one (luck : Luck) {chance : Binary64} (one : chance.value? = some 1) :
    ¬ luck.AtOrAbove chance := by
  unfold Luck.AtOrAbove
  rw [one]
  exact not_le.mpr luck.draw_lt_one

/-- What luck has to do with an answer: it decides whether a rule that acts by chance does anything,
and such a rule either does nothing or what its action does without a chance. -/
structure LuckDecides (answered : Answered) : Prop where
  single : answered.outcome.trace.attempts.length ≤ 1
  spared : ∀ position action chance,
    FirstHolding answered.turn.platform answered.turn.event answered.earlier position →
    answered.earlier.HasChance position action chance → answered.turn.luck.AtOrAbove chance →
      answered.outcome.trace.attempts = []
  never : ∀ position action chance,
    FirstHolding answered.turn.platform answered.turn.event answered.earlier position →
    answered.earlier.HasChance position action chance → chance.value? = some 0 →
      answered.outcome.trace.attempts = []
  certain : ∀ position action chance, answered.earlier.HasChance position action chance →
    (¬ answered.turn.luck.AtOrAbove chance ∨ chance.value? = some 1) →
      dispatch answered.turn.platform answered.turn.luck answered.turn.event
          (answered.earlier.certainAt position action) =
        ⟨answered.outcome.fired, answered.outcome.registry.certainAt position action,
          answered.outcome.trace⟩

theorem luckDecides_answer (turn : Turn) (registry : Registry) :
    LuckDecides (turn.answer registry) := by
  constructor
  case single => exact attempts_dispatch_le_one turn.platform turn.luck turn.event registry
  case spared =>
    intro position action chance first chances above
    exact attempts_of_atOrAbove first chances above
  case never =>
    intro position action chance first chances zero
    exact attempts_of_atOrAbove first chances (atOrAbove_of_zero turn.luck zero)
  case certain =>
    intro position action chance chances succeeds
    apply dispatch_certainAt turn.platform turn.event chances
    rcases succeeds with below | one
    · exact below
    · exact not_atOrAbove_of_one turn.luck one

/-- Two runs that differ in their draws and in the effects that fail fire the same rules, ask the
same questions in the same order and leave the same rules with the same records behind, message by
message. Luck only decides whether a rule with a chance acts at all. -/
theorem luck_never_selects (registry : Registry) (turns others : List Turn)
    (alike : List.Forall₂ Turn.AlikeButLuck turns others) :
    (answerAll others registry).map (fun answered => answered.outcome.selection) =
        (answerAll turns registry).map (fun answered => answered.outcome.selection) ∧
      ∀ answered ∈ answerAll turns registry ++ answerAll others registry,
        LuckDecides answered := by
  refine ⟨selections_answerAll alike registry, fun answered member => ?_⟩
  rcases List.mem_append.mp member with here | there
  · obtain ⟨earlier, same⟩ := mem_answerAll here
    rw [same]
    exact luckDecides_answer answered.turn earlier
  · obtain ⟨earlier, same⟩ := mem_answerAll there
    rw [same]
    exact luckDecides_answer answered.turn earlier

def gamblingRules : Registry :=
  ⟨[{ name := "meow", trigger := .cooldown (.ofWindow (5 * Time.nanosInSecond)) (.predicate "any" fun _ _ => true)
      kind := .randomChance .echo defaultChance }]⟩

def turnsAt (roll : Fin 0x20000000000000) (failure? : Effect → Option ApiError)
    (seconds : List Int) : List Turn :=
  seconds.map fun second =>
    { platform :=
        { id := ⟨7⟩, name := "Amadeus", emoji? := fun _ => none
          precedingAuthor := fun _ _ => .ok none, failure? }
      luck := ⟨roll, fun _ => 0⟩
      event :=
        { id := ⟨1⟩, channel := ⟨100⟩, author := ⟨⟨42⟩, "okabe", none⟩, text := "meow"
          time := ⟨second, 0⟩ } }

theorem gamblingRules_select_alike :
    let lost := answerAll (turnsAt 0 (fun _ => some .notConnected) [10, 15, 16]) gamblingRules
    let unlucky := answerAll (turnsAt (Fin.last _) (fun _ => none) [10, 15, 16]) gamblingRules
    List.Forall₂ Turn.AlikeButLuck (turnsAt 0 (fun _ => some .notConnected) [10, 15, 16])
        (turnsAt (Fin.last _) (fun _ => none) [10, 15, 16]) ∧
      unlucky.map (fun answered => answered.outcome.selection) =
        lost.map (fun answered => answered.outcome.selection) ∧
      lost.map (fun answered => answered.outcome.fired) = [some "meow", none, some "meow"] ∧
      lost.map (fun answered => answered.outcome.trace.attempts.length) = [1, 0, 1] ∧
      unlucky.map (fun answered => answered.outcome.trace.attempts.length) = [0, 0, 0] := by
  have alike : List.Forall₂ Turn.AlikeButLuck
      (turnsAt 0 (fun _ => some .notConnected) [10, 15, 16])
      (turnsAt (Fin.last _) (fun _ => none) [10, 15, 16]) := by
    refine .cons ?_ (.cons ?_ (.cons ?_ .nil)) <;> exact ⟨rfl, rfl, rfl⟩
  exact ⟨alike, (luck_never_selects gamblingRules _ _ alike).1, by decide +kernel,
    by decide +kernel, by decide +kernel⟩

end AutoReply
