import AutoReply.Proofs.Builtin.Table
import AutoReply.Proofs.Dispatch.FirstMatch

/-!
The rules that answer to their name at the start of a line. In their patterns the last letter of the
name may be missing, so they answer to every line that begins with what stands before it.
-/

namespace AutoReply.Builtin

open AutoReply.Chat AutoReply.Pattern AutoReply.Rule AutoReply.Text

/-! The rules as they are built. -/

def commandRule (name source stem : String) (last : Char) (templates : List String) : Response :=
  .plain name (.pattern ⟨source, starting stem last, []⟩) (.roleplay ⟨templates, bold⟩)

def hugRule : Response := commandRule ".hug" "^\\.hug*" ".hu" 'g' hugTemplates

def patRule : Response := commandRule ".pat" "^\\.pat*" ".pa" 't' patTemplates

def greetingTrigger (bot : UserId) : Trigger :=
  .anyOf [.pattern ⟨"^amadeus*", starting "amadeu" 's', []⟩, .mentions bot true]

theorem hug_built : hug = .ok hugRule := by
  rw [hug, ofPattern_eq compile_hug]
  rfl

theorem pat_built : pat = .ok patRule := by
  rw [pat, ofPattern_eq compile_pat]
  rfl

theorem greeting_built (bot : UserId) : ∃ rule,
    greeting bot = .ok rule ∧ rule.name = "Amadeus" ∧ rule.trigger = greetingTrigger bot := by
  obtain ⟨_, built⟩ := greeting_eq bot
  exact ⟨_, built, rfl, rfl⟩

theorem steady_greetingTrigger (bot : UserId) : (greetingTrigger bot).Steady :=
  .anyOf (List.forall_mem_cons.mpr
    ⟨.pattern _, List.forall_mem_singleton.mpr (.mentions bot true)⟩)

theorem exists_commands (bot : UserId) : ∃ rules, registry bot = .ok rules ∧
    (rules.responses.map Response.name).Nodup ∧ hugRule ∈ rules.responses ∧
      patRule ∈ rules.responses ∧
        ∃ greets ∈ rules.responses, greets.name = "Amadeus" ∧
          greets.trigger = greetingTrigger bot := by
  obtain ⟨rules, built, distinct, members⟩ := exists_built bot
  obtain ⟨greets, builtGreeting, named, trigger⟩ := greeting_built bot
  rw [builtGreeting, hug_built, pat_built] at members
  simp only [List.mem_cons] at members
  exact ⟨rules, built, distinct, members _ (by simp), members _ (by simp), greets,
    members _ (by simp), named, trigger⟩

/-! What they answer to. -/

/-- The rules of a name hold, and so are only applied, when the message fulfills a condition. -/
structure Listens (rules : Registry) (name : String) (condition : MessageEvent → Prop) : Prop where
  present : ∃ rule ∈ rules.responses, rule.name = name
  matched : ∀ rule ∈ rules.responses, rule.name = name → ∀ platform event,
    (rule.trigger.check platform event).matched = true ↔ condition event
  fired : ∀ platform luck event,
    (dispatch platform luck event rules).fired = some name → condition event

section

variable {rules : Registry} (distinct : (rules.responses.map Response.name).Nodup)
  (occurrences : List Occurrence)

include distinct

theorem listens_runRules {rule : Response} (member : rule ∈ rules.responses)
    (steady : rule.trigger.Steady) {condition : MessageEvent → Prop}
    (holds : ∀ platform event,
      (rule.trigger.check platform event).matched = true ↔ condition event) :
    Listens (runRules occurrences rules) rule.name condition := by
  have matched : ∀ later ∈ (runRules occurrences rules).responses, later.name = rule.name →
      ∀ platform event, (later.trigger.check platform event).matched = true ↔ condition event := by
    intro later memberLater named platform event
    have same := bare_of_named member distinct occurrences memberLater named
    rw [Response.trigger_of_bare steady same]
    exact holds platform event
  refine ⟨exists_named_runRules member occurrences, matched, fun platform luck event fired => ?_⟩
  obtain ⟨later, memberLater, named, holdsLater, _⟩ := exists_fired fired
  exact (matched later memberLater named platform event).mp holdsLater

theorem listens_command {name source stem : String} {last : Char} {templates : List String}
    (member : commandRule name source stem last templates ∈ rules.responses)
    (known : stem.toList ⊆ plainCharacters) :
    Listens (runRules occurrences rules) name (LineBegins · stem) :=
  listens_runRules distinct occurrences member (.pattern _)
    fun _ _ => matched_starting known source last

end

/-- Whatever happens to the built-in rules, the two roleplays and the greeting hold for the messages
with a line that begins with all but the last letter of their name, and the greeting also for those
that mention the bot or reply to it. -/
theorem commands_listen_to_stems (bot : UserId) :
    ∃ rules, registry bot = .ok rules ∧ ∀ occurrences : List Occurrence,
      let later := runRules occurrences rules
      Listens later ".hug" (LineBegins · ".hu") ∧ Listens later ".pat" (LineBegins · ".pa") ∧
        Listens later "Amadeus" fun event =>
          LineBegins event "amadeu" ∨ Mentioned bot event ∨ RepliedTo bot event := by
  obtain ⟨rules, built, distinct, memberHug, memberPat, greets, memberGreets, named, trigger⟩ :=
    exists_commands bot
  refine ⟨rules, built, fun occurrences => ⟨listens_command distinct occurrences memberHug
    (by decide), listens_command distinct occurrences memberPat (by decide), ?greets⟩⟩
  case greets =>
    have steady : greets.trigger.Steady := trigger ▸ steady_greetingTrigger bot
    rw [← named]
    refine listens_runRules distinct occurrences memberGreets steady fun platform event => ?_
    rw [trigger]
    exact matched_greeting "^amadeus*"

/-- Only the whole name at the start of a line is answered, where the bot is not meant anyway. -/
def AnswersToWholeNames : Prop :=
  ∀ bot rules, registry bot = .ok rules → ∀ platform luck event,
    let answer := (dispatch platform luck event rules).fired
    (answer = some ".hug" → LineBegins event ".hug") ∧
      (answer = some ".pat" → LineBegins event ".pat") ∧
      (¬ Mentioned bot event → ¬ RepliedTo bot event → answer = some "Amadeus" →
        LineBegins event "amadeus")

def answerTo (event : MessageEvent) : Option (Option String) :=
  (registry ⟨7⟩).toOption.map fun rules =>
    (dispatch (Trigger.platformAnswering (.ok none)) (.ofSeed 0) event rules).fired

theorem fired_of_answerTo {rules : Registry} (built : registry ⟨7⟩ = .ok rules)
    {event : MessageEvent} {name : String} (answered : answerTo event = some (some name)) :
    (dispatch (Trigger.platformAnswering (.ok none)) (.ofSeed 0) event rules).fired =
      some name := by
  rw [answerTo, built] at answered
  exact Option.some.inj answered

def shortHug : MessageEvent :=
  { id := ⟨1⟩, channel := ⟨100⟩, author := ⟨⟨42⟩, "okabe", none⟩, text := ".hu", time := ⟨10, 0⟩ }

theorem not_answersToWholeNames : ¬ AnswersToWholeNames := by
  intro whole
  obtain ⟨rules, built, _⟩ := exists_commands ⟨7⟩
  have answered : answerTo shortHug = some (some ".hug") := by decide +kernel
  have begins := (whole ⟨7⟩ rules built _ _ shortHug).1 (fired_of_answerTo built answered)
  revert begins
  unfold LineBegins
  decide

end AutoReply.Builtin
