import AutoReply.Proofs.Builtin.Commands
import AutoReply.Proofs.Rule.Roleplay

/-!
Whom the built-in roleplays are for when nobody is mentioned. A command may stand at the start of
any line, but the targets are the words behind the first one of the message, which is the command
only if no words stand before it.
-/

namespace AutoReply.Text

theorem isBlank_toLower (character : Char) : isBlank character.toLower = isBlank character := by
  have lower := toNat_toLower character
  by_cases capital : 65 ≤ character.toNat ∧ character.toNat ≤ 90
  · rw [if_pos capital] at lower
    rw [isBlank_eq_false (by omega) (by omega), isBlank_eq_false (by omega) (by omega)]
  · rw [if_neg capital] at lower
    rw [Char.toNat_inj.mp lower]

/-! Where a command stands in a text. -/

def Begins (command line : List Char) : Prop :=
  command <+: line.map Char.toLower

instance (command line : List Char) : Decidable (Begins command line) :=
  inferInstanceAs (Decidable (command <+: line.map Char.toLower))

/-- The first line that begins with the command begins with this word; all words of the lines before
it stand before the word, and all that follow to the end of the text stand behind it. -/
inductive FirstCommand (command : List Char) :
    List (List Char) → List (List Char) → List Char → List (List Char) → Prop
  | here {line word : List Char} {later behind : List (List Char)} :
      Begins command line → HasWords (join ['\n'] (line :: later)) (word :: behind) →
        FirstCommand command (line :: later) [] word behind
  | later {line word : List Char} {lines listed before behind : List (List Char)} :
      ¬ Begins command line → HasWords line listed →
        FirstCommand command lines before word behind →
          FirstCommand command (line :: lines) (listed ++ before) word behind

section

variable {command : List Char}

theorem exists_words_of_begins (isWord : IsWord command) {line : List Char}
    (begins : Begins command line) (later : List (List Char)) :
    ∃ word behind, HasWords (join ['\n'] (line :: later)) (word :: behind) ∧
      Begins command word := by
  obtain ⟨others, same⟩ := begins
  obtain ⟨start, more, rfl, rfl, _⟩ := List.map_eq_append_iff.mp same.symm
  have isStart : IsWord start := by
    refine ⟨fun none => isWord.1 (by rw [none, List.map_nil]), fun character member => ?_⟩
    rw [← isBlank_toLower]
    exact isWord.2 _ (List.mem_map_of_mem member)
  obtain ⟨rest, joined⟩ := exists_join_cons ['\n'] (start ++ more) later
  obtain ⟨word, behind, hasWords, startsWord⟩ := exists_hasWords_of_isWord isStart (more ++ rest)
  rw [joined, List.append_assoc]
  exact ⟨word, behind, hasWords, startsWord.map Char.toLower⟩

namespace FirstCommand

variable {lines before : List (List Char)} {word : List Char} {behind : List (List Char)}

theorem hasWords (first : FirstCommand command lines before word behind) :
    HasWords (join ['\n'] lines) (before ++ word :: behind) := by
  induction first with
  | here _ hasWords => exact hasWords
  | @later line word lines listed before behind _ hasListed first ih =>
      have joined : join ['\n'] (line :: lines) = line ++ '\n' :: join ['\n'] lines := by
        cases first <;> rw [join_cons_cons, List.append_assoc, List.singleton_append]
      rw [joined, List.append_assoc]
      exact hasListed.append_blank (by decide) ih

theorem begins_word (isWord : IsWord command)
    (first : FirstCommand command lines before word behind) : Begins command word := by
  induction first with
  | @here line word later behind begins hasWords =>
      obtain ⟨other, others, hasOthers, beginsOther⟩ := exists_words_of_begins isWord begins later
      rw [hasWords_iff, hasWords_iff.mp hasOthers, List.cons.injEq] at hasWords
      exact hasWords.1 ▸ beginsOther
  | later _ _ _ ih => exact ih

end FirstCommand

theorem exists_firstCommand (isWord : IsWord command) {lines : List (List Char)}
    (somewhere : ∃ line ∈ lines, Begins command line) :
    ∃ before word behind, FirstCommand command lines before word behind := by
  induction lines with
  | nil =>
      obtain ⟨_, member, _⟩ := somewhere
      cases member
  | cons line lines ih =>
      by_cases begins : Begins command line
      · obtain ⟨word, behind, hasWords, _⟩ := exists_words_of_begins isWord begins lines
        exact ⟨[], word, behind, .here begins hasWords⟩
      · rw [List.exists_mem_cons_iff] at somewhere
        obtain ⟨before, word, behind, first⟩ := ih (somewhere.resolve_left begins)
        exact ⟨_, word, behind, .later begins (hasWords_iff.mpr rfl) first⟩

end

end AutoReply.Text

namespace AutoReply.Builtin

open AutoReply.Chat AutoReply.Rule AutoReply.Text

/-! Whom a roleplay is for. -/

def namedOrBot (bot : Bot) (named : List (List Char)) : List String :=
  if named = [] then [bot.name] else named.map String.ofList

theorem targets_eq {bot : Bot} {event : MessageEvent} (mentions : event.mentions = [])
    {listed : List (List Char)} (hasWords : HasWords event.text.toList listed) :
    Roleplay.targets bot event = namedOrBot bot listed.tail := by
  rw [Roleplay.targets, mentions, hasWords_iff.mp hasWords, List.drop_one, namedOrBot]
  cases listed.tail <;> rfl

theorem namedOrBot_tail_eq_iff (bot : Bot) (before behind : List (List Char)) (word : List Char) :
    namedOrBot bot (before ++ word :: behind).tail = namedOrBot bot behind ↔
      before = [] ∨ before.length = 1 ∧ behind = [] ∧ String.ofList word = bot.name := by
  cases before with
  | nil => simp
  | cons first before =>
      have others : namedOrBot bot (first :: before ++ word :: behind).tail =
          (before ++ word :: behind).map String.ofList := by
        rw [List.cons_append, List.tail_cons, namedOrBot, if_neg (by simp)]
      rw [others]
      cases behind with
      | nil =>
          cases before <;> simp [namedOrBot]
      | cons next behind =>
          refine iff_of_false (fun same => ?_) (by simp)
          have lengths := congrArg List.length same
          simp [namedOrBot] at lengths
          omega

structure Targeted (bot : Bot) (before : List (List Char)) (word : List Char)
    (behind : List (List Char)) (targets : List String) : Prop where
  others : targets = namedOrBot bot (before ++ word :: behind).tail
  follow_iff : targets = namedOrBot bot behind ↔
    before = [] ∨ before.length = 1 ∧ behind = [] ∧ String.ofList word = bot.name

theorem targeted_of_firstCommand (bot : Bot) {event : MessageEvent} (mentions : event.mentions = [])
    {command word : List Char} {before behind : List (List Char)}
    (first : FirstCommand command (lines event.text) before word behind) :
    Targeted bot before word behind (Roleplay.targets bot event) := by
  have hasWords := first.hasWords
  rw [join_lines] at hasWords
  have others : Roleplay.targets bot event = namedOrBot bot (before ++ word :: behind).tail :=
    targets_eq mentions hasWords
  refine ⟨others, ?_⟩
  rw [others]
  exact namedOrBot_tail_eq_iff bot before behind word

def SendsBlocks (templates : List String) (platform : Platform) (event : MessageEvent)
    (attempts : List Attempt) : Prop :=
  let play : Roleplay := ⟨templates, bold⟩
  let targets := Roleplay.targets platform.toBot event
  ∃ chosen, play.Chosen targets chosen ∧
    attempts = (attempt platform (.sendRich event.channel
      (.untitled (play.text event.author.name chosen targets)))).1.attempts

theorem sendsBlocks_of_fired {rules : Registry}
    (distinct : (rules.responses.map Response.name).Nodup)
    {name source stem : String} {last : Char} {templates : List String}
    (member : commandRule name source stem last templates ∈ rules.responses)
    (nonempty : templates ≠ []) (occurrences : List Occurrence) {platform : Platform} {luck : Luck}
    {event : MessageEvent}
    (fired : (dispatch platform luck event (runRules occurrences rules)).fired = some name) :
    SendsBlocks templates platform event
      (dispatch platform luck event (runRules occurrences rules)).trace.attempts := by
  obtain ⟨later, memberLater, named, _, attempts⟩ := exists_fired fired
  have kind : later.kind = .plain (.roleplay ⟨templates, bold⟩) :=
    Response.plain_of_bare rfl (bare_of_named member distinct occurrences memberLater named)
  have applied : later.apply platform luck event =
      (Action.roleplay ⟨templates, bold⟩).apply platform luck event := by
    rw [Response.apply, Response.activeAction, kind]
  refine ⟨luck.drawn templates 0 (Roleplay.targets platform.toBot event).length,
    ⟨Luck.length_drawn nonempty _, fun _ => Luck.mem_of_mem_drawn⟩, ?_⟩
  rw [attempts, applied, Action.apply, Action.effect, Roleplay.render_eq nonempty]

/-- Whatever happens to the built-in rules, a roleplay that fires sends a block for each target.
Without mentions the targets are all words but the first of the message. Those are the words behind
the command if no word stands before it, and otherwise never, but for a bot that is called like the
command and finds it alone behind one word. -/
theorem targets_behind_first_word (bot : UserId) :
    ∃ rules, registry bot = .ok rules ∧
      ∀ command ∈ [(".hug", hugTemplates), (".pat", patTemplates)],
        ∀ (occurrences : List Occurrence) (platform : Platform) (luck : Luck)
          (event : MessageEvent),
          let outcome := dispatch platform luck event (runRules occurrences rules)
          outcome.fired = some command.1 →
            SendsBlocks command.2 platform event outcome.trace.attempts ∧
              (event.mentions = [] → LineBegins event command.1 →
                (∃ before word behind,
                  FirstCommand command.1.toList (lines event.text) before word behind) ∧
                ∀ before word behind,
                  FirstCommand command.1.toList (lines event.text) before word behind →
                    Begins command.1.toList word ∧ Targeted platform.toBot before word behind
                      (Roleplay.targets platform.toBot event)) := by
  obtain ⟨rules, built, distinct, memberHug, memberPat, _⟩ := exists_commands bot
  refine ⟨rules, built, fun command known occurrences platform luck event => ?_⟩
  intro outcome fired
  have isWord : IsWord command.1.toList := by
    simp only [List.mem_cons, List.not_mem_nil, or_false] at known
    rcases known with rfl | rfl <;> exact ⟨by decide, noBlank_of_any (by decide)⟩
  refine ⟨?sent, fun mentions begins => ⟨exists_firstCommand isWord begins,
    fun before word behind first =>
      ⟨first.begins_word isWord, targeted_of_firstCommand platform.toBot mentions first⟩⟩⟩
  case sent =>
    simp only [List.mem_cons, List.not_mem_nil, or_false] at known
    rcases known with rfl | rfl
    · exact sendsBlocks_of_fired distinct memberHug (List.cons_ne_nil _ _) occurrences fired
    · exact sendsBlocks_of_fired distinct memberPat (List.cons_ne_nil _ _) occurrences fired

def lateHug : MessageEvent :=
  { shortHug with text := "hey\n.hug" }

theorem answerTo_lateHug : answerTo lateHug = some (some ".hug") := by
  decide +kernel

theorem firstCommand_lateHug :
    FirstCommand ".hug".toList (lines lateHug.text) ["hey".toList] ".hug".toList [] := by
  have before : HasWords "hey".toList ["hey".toList] := hasWords_iff.mpr (by decide)
  have rest : HasWords (join ['\n'] [".hug".toList]) [".hug".toList] := hasWords_iff.mpr (by decide)
  exact .later (by decide) before (.here (by decide) rest)

theorem lateHug_targeted :
    lateHug.mentions = [] ∧ LineBegins lateHug ".hug" ∧
      ∃ rules, registry ⟨7⟩ = .ok rules ∧
        let platform := Trigger.platformAnswering (.ok none)
        let outcome := dispatch platform (.ofSeed 0) lateHug rules
        outcome.fired = some ".hug" ∧
          SendsBlocks hugTemplates platform lateHug outcome.trace.attempts ∧
            Targeted platform.toBot ["hey".toList] ".hug".toList []
              (Roleplay.targets platform.toBot lateHug) := by
  obtain ⟨rules, built, plays⟩ := targets_behind_first_word ⟨7⟩
  have begins : LineBegins lateHug ".hug" := ⟨".hug".toList, by decide, by decide⟩
  have fired := fired_of_answerTo built answerTo_lateHug
  obtain ⟨sent, targeted⟩ := plays (".hug", hugTemplates) List.mem_cons_self [] _ _ _ fired
  exact ⟨rfl, begins, rules, built, fired, sent,
    ((targeted rfl begins).2 _ _ _ firstCommand_lateHug).2⟩

/-- The targets are the words behind the command, wherever it stands, or the bot. -/
def TargetsFollowCommand : Prop :=
  ∀ bot rules, registry bot = .ok rules → ∀ command ∈ [".hug", ".pat"], ∀ platform luck event,
    (dispatch platform luck event rules).fired = some command → event.mentions = [] →
      ∀ before word behind, FirstCommand command.toList (lines event.text) before word behind →
        Roleplay.targets platform.toBot event = namedOrBot platform.toBot behind

theorem not_targetsFollowCommand : ¬ TargetsFollowCommand := by
  intro follow
  obtain ⟨rules, built, _⟩ := exists_commands ⟨7⟩
  have fired := fired_of_answerTo built answerTo_lateHug
  have targets := follow ⟨7⟩ rules built ".hug" (by decide) _ _ lateHug fired rfl _ _ _
    firstCommand_lateHug
  revert targets
  decide

end AutoReply.Builtin
