import Mathlib.Data.List.Forall2
import AutoReply.Proofs.Builtin.Patterns
import AutoReply.Proofs.Dispatch.States
import AutoReply.Proofs.Rule.Meaning

/-!
When the built-in rules answer: the first enabled one whose row of a table holds, by what the
message says, to whom it is addressed and when its channel was answered last.
-/

namespace AutoReply

open AutoReply.Chat AutoReply.Pattern AutoReply.Rule AutoReply.Text AutoReply.Time

/-! Answers by a table. -/

/-- The answer is the first row that is enabled and whose condition holds, if there is one. -/
inductive Decides (enabled : String → Bool) : List (String × Prop) → Option String → Prop
  | nobody : Decides enabled [] none
  | first {name : String} {condition : Prop} {rows : List (String × Prop)} :
      enabled name = true → condition → Decides enabled ((name, condition) :: rows) (some name)
  | later {name : String} {condition : Prop} {rows : List (String × Prop)}
      {answer : Option String} :
      ¬ (enabled name = true ∧ condition) → Decides enabled rows answer →
        Decides enabled ((name, condition) :: rows) answer

theorem Decides.unique {enabled : String → Bool} {rows : List (String × Prop)}
    {answer other : Option String} (decides : Decides enabled rows answer)
    (decidesOther : Decides enabled rows other) : answer = other := by
  induction decides with
  | nobody =>
      cases decidesOther
      rfl
  | first on holds =>
      cases decidesOther with
      | first _ _ => rfl
      | later fails _ => exact absurd ⟨on, holds⟩ fails
  | later fails _ ih =>
      cases decidesOther with
      | first on holds => exact absurd ⟨on, holds⟩ fails
      | later _ rest => exact ih rest

theorem Decides.eq_iff {enabled : String → Bool} {rows : List (String × Prop)}
    {answer other : Option String} (decides : Decides enabled rows answer) :
    answer = other ↔ Decides enabled rows other :=
  ⟨fun same => same ▸ decides, decides.unique⟩

structure Describes (platform : Platform) (event : MessageEvent) (enabled : String → Bool)
    (response : Response) (row : String × Prop) : Prop where
  name : response.name = row.1
  enabled : response.enabled = enabled row.1
  holds : (response.trigger.check platform event).matched = true ↔ row.2

theorem decides_dispatchFrom {platform : Platform} {event : MessageEvent} {enabled : String → Bool}
    {responses : List Response} {rows : List (String × Prop)} (luck : Luck)
    (describe : List.Forall₂ (Describes platform event enabled) responses rows) :
    Decides enabled rows (dispatchFrom platform luck event responses).1 := by
  induction describe with
  | nil => exact .nobody
  | @cons response row responses rows describes _ ih =>
      have matched : (response.check platform event).matched = true ↔
          enabled row.1 = true ∧ row.2 := by
        rw [Response.matched_check, Bool.and_eq_true, describes.enabled, describes.holds]
      rw [dispatchFrom]
      split
      · next found =>
        obtain ⟨on, holds⟩ := matched.mp found
        rw [describes.name]
        exact .first on holds
      · next missed => exact .later (missed ∘ matched.mpr) ih

namespace Builtin

/-! The conditions of the rules. -/

section

variable (bot : UserId) (records : SortedMap ChannelId (Option Timestamp)) (platform : Platform)
  (event : MessageEvent)

/-- The message contains the phrase, without regard to case. -/
def Says (phrase : String) : Prop :=
  phrase.toList <:+: (lower event.text).toList

def Mentioned : Prop := ∃ mention ∈ event.mentions, mention.id = bot

def RepliedTo : Prop := event.reply = some (.toMessageOf bot)

def Followed : Prop := platform.precedingAuthor event.channel event.id = .ok (some bot)

def Addressed : Prop :=
  Mentioned bot event ∨ RepliedTo bot event ∨ Followed bot platform event ∨ Says event "amadeus"

def Comments (phrases keywords : List String) : Prop :=
  (∃ phrase ∈ phrases, Says event phrase) ∨
    (∃ keyword ∈ keywords, Says event keyword) ∧ Addressed bot platform event

def LineBegins (word : String) : Prop :=
  ∃ line ∈ lines event.text, word.toList <+: line.map Char.toLower

def Rested : Prop :=
  ∀ last, (records.lookup event.channel).join = some last →
    5 * nanosInSecond < event.time.nanosSince last

def table : List (String × Prop) :=
  [("Thanks Bot", Comments bot platform event ["thanks bot", "good bot"] ["thank"]),
    ("Bad Bot",
      Comments bot platform event ["bad bot", "stupid bot"] ["shut", "bad", "stupid", "kys"]),
    ("Cool Bot",
      Comments bot platform event ["epic bot", "cool bot"] ["epic", "cool", "poggers"]),
    ("Dad Bot", Introduces event.text),
    ("Nicu", Says event "nicu"),
    ("Nullpo", Says event "nullpo"),
    ("Amadeus", LineBegins event "amadeu" ∨ Mentioned bot event ∨ RepliedTo bot event),
    ("Cyanide", event.text ∈ ["cyanide", "cyan", "cya", "see you", "see ya"]),
    (".hug", LineBegins event ".hu"),
    (".pat", LineBegins event ".pa"),
    ("meow", Meows event.text ∧ Rested records event)]

end

/-! Each rule holds as its row says. -/

section

variable {bot : UserId} {platform : Platform} {event : MessageEvent}

theorem matched_anyOf (children : List Trigger) :
    ((Trigger.anyOf children).check platform event).matched = true ↔
      ∃ child ∈ children, (child.check platform event).matched = true :=
  Trigger.matched_checkAny children

theorem matched_allOf (children : List Trigger) :
    ((Trigger.allOf children).check platform event).matched = true ↔
      ∀ child ∈ children, (child.check platform event).matched = true :=
  Trigger.matched_checkAll children

theorem matched_containing {phrases : List String}
    (small : ∀ phrase ∈ phrases, lower phrase = phrase) :
    ((Trigger.containing phrases).check platform event).matched = true ↔
      ∃ phrase ∈ phrases, Says event phrase := by
  have kept : phrases.map lower = phrases :=
    (List.map_congr_left small).trans (List.map_id phrases)
  simp [Trigger.containing, Trigger.check, Phrases.isMatch, Phrases.make, kept, contains_iff, Says]

theorem matched_word {word : String} (small : lower word = word) :
    ((Trigger.containing [word]).check platform event).matched = true ↔ Says event word := by
  rw [matched_containing (List.forall_mem_singleton.mpr small)]
  simp

theorem matched_mentions :
    ((Trigger.mentions bot true).check platform event).matched = true ↔
      Mentioned bot event ∨ RepliedTo bot event := by
  have replied : event.replyAuthor = some bot ↔ RepliedTo bot event := by
    rw [MessageEvent.replyAuthor, RepliedTo, Option.bind_eq_some_iff]
    constructor
    · rintro ⟨_ | _, found, author⟩
      · cases author
        exact found
      · cases author
    · exact fun found => ⟨_, found, rfl⟩
  simp [Trigger.check, MessageEvent.mentionsUser, Mentioned, replied]

theorem matched_lastAuthor :
    ((Trigger.lastAuthor bot).check platform event).matched = true ↔
      Followed bot platform event := by
  rw [Trigger.check, checkLastAuthor, Followed]
  cases platform.precedingAuthor event.channel event.id <;> simp

theorem matched_addressedTo :
    ((addressedTo bot).check platform event).matched = true ↔ Addressed bot platform event := by
  rw [addressedTo, matched_anyOf]
  simp only [List.exists_mem_cons_iff, matched_mentions, matched_lastAuthor,
    matched_word (show lower "amadeus" = "amadeus" by decide)]
  simp [Addressed, or_assoc]

theorem matched_feedback (name : String) {phrases keywords : List String} (emojiName : String)
    (emoji : EmojiId) (small : ∀ phrase ∈ phrases ++ keywords, lower phrase = phrase) :
    ((feedback bot name phrases keywords emojiName emoji).trigger.check platform event).matched =
        true ↔
      Comments bot platform event phrases keywords := by
  obtain ⟨smallPhrases, smallKeywords⟩ := List.forall_mem_append.mp small
  simp [feedback, Response.sendOrReact, matched_anyOf, matched_allOf,
    matched_containing smallPhrases, matched_containing smallKeywords, matched_addressedTo,
    Comments]

theorem matched_farewell :
    (farewell.trigger.check platform event).matched = true ↔
      event.text ∈ ["cyanide", "cyan", "cya", "see you", "see ya"] := by
  simp [farewell, Response.sendOrReact, Trigger.check, Phrases.isMatch, Phrases.make]

theorem matched_starting {word : String}
    (known : word.toList ⊆ plainCharacters) (source : String) (last : Char) :
    ((Trigger.pattern ⟨source, starting word last, []⟩).check platform event).matched = true ↔
      LineBegins event word :=
  isMatch_starting known last source event.text

theorem matched_greeting (source : String) :
    ((Trigger.anyOf [.pattern ⟨source, starting "amadeu" 's', []⟩, .mentions bot true]).check
        platform event).matched = true ↔
      LineBegins event "amadeu" ∨ Mentioned bot event ∨ RepliedTo bot event := by
  rw [matched_anyOf]
  simp only [List.exists_mem_cons_iff, matched_mentions,
    matched_starting (show "amadeu".toList ⊆ plainCharacters by decide)]
  simp

theorem matched_meow (source : String) (records : SortedMap ChannelId (Option Timestamp)) :
    ((Trigger.cooldown ⟨5 * nanosInSecond, records⟩ (.pattern ⟨source, meowing, []⟩)).check
        platform event).matched = true ↔
      Meows event.text ∧ Rested records event := by
  have isOpen : (Cooldown.mk (5 * nanosInSecond) records).isOpen event.channel event.time = true ↔
      Rested records event :=
    Cooldown.isOpen_iff _ _ _
  rw [← isMatch_meowing source, ← isOpen, Trigger.check, Trigger.check, Cooldown.tryFire_eq]
  cases heard : (Pattern.mk source meowing []).isMatch event.text with
  | false => simp
  | true => cases (Cooldown.mk (5 * nanosInSecond) records).isOpen event.channel event.time <;> simp

end

/-! The rules as they are built. -/

theorem validChance_default : validChance defaultChance = .ok defaultChance := by
  unfold validChance
  rw [if_pos (by decide +kernel)]

theorem withChance_default (name : String) (trigger : Trigger) (action : Action) :
    Response.withChance name trigger action defaultChance =
      .ok { name, trigger, kind := .randomChance action defaultChance } := by
  rw [Response.withChance, Response.randomChance, validChance_default]
  rfl

theorem ofPattern_eq {source : String} {pattern : Pattern}
    (compiled : Pattern.compile source = .ok pattern) :
    Trigger.ofPattern source = .ok (.pattern pattern) := by
  rw [Trigger.ofPattern, compilePattern, compiled]
  rfl

theorem dad_built :
    dad = .ok
      { name := "Dad Bot"
        trigger := .pattern ⟨dadPattern, introducing, []⟩
        kind := .randomChance (.substitute ⟨⟨dadPattern, introducing, []⟩, dadReplacement⟩)
          defaultChance } := by
  rw [dad, ofPattern_eq compile_dadPattern, Action.ofPattern, compilePattern, compile_dadPattern]
  simp only [bind, Except.bind, Except.mapError, Except.map, withChance_default]

theorem dad_eq : ∃ kind,
    dad = .ok { name := "Dad Bot", trigger := .pattern ⟨dadPattern, introducing, []⟩, kind } :=
  ⟨_, dad_built⟩

theorem greeting_eq (bot : UserId) : ∃ kind,
    greeting bot = .ok
      { name := "Amadeus"
        trigger :=
          .anyOf [.pattern ⟨"^amadeus*", starting "amadeu" 's', []⟩, .mentions bot true]
        kind } := by
  rw [greeting, ofPattern_eq compile_greeting]
  exact ⟨_, rfl⟩

theorem hug_eq : ∃ kind,
    hug = .ok
      { name := ".hug", trigger := .pattern ⟨"^\\.hug*", starting ".hu" 'g', []⟩, kind } := by
  rw [hug, ofPattern_eq compile_hug]
  exact ⟨_, rfl⟩

theorem pat_eq : ∃ kind,
    pat = .ok
      { name := ".pat", trigger := .pattern ⟨"^\\.pat*", starting ".pa" 't', []⟩, kind } := by
  rw [pat, ofPattern_eq compile_pat]
  exact ⟨_, rfl⟩

theorem meow_eq : ∃ kind,
    meow = .ok
      { name := "meow"
        trigger := .cooldown (.ofWindow (5 * nanosInSecond)) (.pattern ⟨"m[re]+o+w+~*", meowing, []⟩)
        kind } := by
  have throttled (inner : Trigger) :
      Trigger.throttled 5 inner = .ok (.cooldown (.ofWindow (5 * nanosInSecond)) inner) := rfl
  rw [meow, ofPattern_eq compile_meow]
  simp only [bind, Except.bind, throttled, withChance_default]
  exact ⟨_, rfl⟩

theorem exists_built (bot : UserId) : ∃ rules, registry bot = .ok rules ∧
    (rules.responses.map Response.name).Nodup ∧
      ∀ rule, .ok rule ∈ [dad, greeting bot, hug, pat, meow] → rule ∈ rules.responses := by
  obtain ⟨_, builtGreeting⟩ := greeting_eq bot
  obtain ⟨_, builtHug⟩ := hug_eq
  obtain ⟨_, builtPat⟩ := pat_eq
  obtain ⟨_, builtMeow⟩ := meow_eq
  refine ⟨_, by rw [registry, dad_built, builtGreeting, builtHug, builtPat, builtMeow]; rfl, ?_,
    fun rule built => ?_⟩
  · show ["Thanks Bot", "Bad Bot", "Cool Bot", "Dad Bot", "Nicu", "Nullpo", "Amadeus", "Cyanide",
      ".hug", ".pat", "meow"].Nodup
    decide
  · rw [dad_built, builtGreeting, builtHug, builtPat, builtMeow] at built
    simp only [List.mem_cons, List.not_mem_nil, Except.ok.injEq, or_false] at built
    rcases built with rfl | rfl | rfl | rfl | rfl <;> simp only [List.mem_cons, true_or, or_true]

theorem simple_containing (phrases : List String) : (Trigger.containing phrases).Simple :=
  .steady (.phrases _)

theorem simple_feedback (bot : UserId) (name : String) (phrases keywords : List String)
    (emojiName : String) (emoji : EmojiId) :
    (feedback bot name phrases keywords emojiName emoji).trigger.Simple := by
  have addressed : (addressedTo bot).Steady :=
    .anyOf (List.forall_mem_cons.mpr ⟨.mentions bot true, List.forall_mem_cons.mpr
      ⟨.lastAuthor bot, List.forall_mem_singleton.mpr (.phrases _)⟩⟩)
  have keyed : (Trigger.allOf [.containing keywords, addressedTo bot]).Steady :=
    .allOf (List.forall_mem_cons.mpr ⟨.phrases _, List.forall_mem_singleton.mpr addressed⟩)
  exact .steady (.anyOf (List.forall_mem_cons.mpr
    ⟨.phrases _, List.forall_mem_singleton.mpr keyed⟩))

theorem describes_response (state : RulesState) {platform : Platform} {event : MessageEvent}
    (rule : Response) {condition : Prop}
    (holds : ((rule.trigger.withRecords (state.records rule.name)).check platform event).matched =
      true ↔ condition) :
    Describes platform event state.enabled (state.response rule) (rule.name, condition) :=
  ⟨rfl, rfl, holds⟩

/-- Whatever happens to the built-in rules, they are in some state; and in every state they answer
by their table. -/
theorem dispatch_decides_by_table (bot : UserId) :
    ∃ rules, registry bot = .ok rules ∧
      (∀ occurrences, ∃ state : RulesState, runRules occurrences rules = state.registry rules) ∧
      ∀ (state : RulesState) (platform : Platform) (luck : Luck) (event : MessageEvent)
        (answer : Option String),
        (dispatch platform luck event (state.registry rules)).fired = answer ↔
          Decides state.enabled (table bot (state.records "meow") platform event) answer := by
  obtain ⟨_, builtDad⟩ := dad_eq
  obtain ⟨_, builtGreeting⟩ := greeting_eq bot
  obtain ⟨_, builtHug⟩ := hug_eq
  obtain ⟨_, builtPat⟩ := pat_eq
  obtain ⟨_, builtMeow⟩ := meow_eq
  refine ⟨_, by rw [registry, builtDad, builtGreeting, builtHug, builtPat, builtMeow]; rfl,
    exists_state_runRules ?distinct ?simple, fun state platform luck event answer => ?decides⟩
  case distinct =>
    show ["Thanks Bot", "Bad Bot", "Cool Bot", "Dad Bot", "Nicu", "Nullpo", "Amadeus", "Cyanide",
      ".hug", ".pat", "meow"].Nodup
    decide
  case simple =>
    have greets : ∀ child ∈ [Trigger.pattern ⟨"^amadeus*", starting "amadeu" 's', []⟩,
        .mentions bot true], child.Steady :=
      List.forall_mem_cons.mpr ⟨.pattern _, List.forall_mem_singleton.mpr (.mentions bot true)⟩
    simp only [List.forall_mem_cons, List.not_mem_nil, false_implies, implies_true, and_true]
    exact ⟨simple_feedback _ _ _ _ _ _, simple_feedback _ _ _ _ _ _, simple_feedback _ _ _ _ _ _,
      .steady (.pattern _), simple_containing _, simple_containing _, .steady (.anyOf greets),
      .steady (.phrases _), .steady (.pattern _), .steady (.pattern _),
      .throttled _ (.pattern _)⟩
  case decides =>
    refine (decides_dispatchFrom luck (.cons ?thanks (.cons ?insult (.cons ?praise (.cons ?dad
      (.cons ?nicu (.cons ?nullpo (.cons ?greeting (.cons ?farewell (.cons ?hug (.cons ?pat
        (.cons ?meow .nil)))))))))))).eq_iff
    case thanks => exact describes_response state (thanks bot) (matched_feedback _ _ _ (by decide))
    case insult => exact describes_response state (insult bot) (matched_feedback _ _ _ (by decide))
    case praise => exact describes_response state (praise bot) (matched_feedback _ _ _ (by decide))
    case dad => exact describes_response state _ (isMatch_introducing dadPattern event.text)
    case nicu => exact describes_response state nicu (matched_word (by decide))
    case nullpo => exact describes_response state nullpo (matched_word (by decide))
    case greeting => exact describes_response state _ (matched_greeting _)
    case farewell => exact describes_response state farewell matched_farewell
    case hug => exact describes_response state _ (matched_starting (by decide) _ 'g')
    case pat => exact describes_response state _ (matched_starting (by decide) _ 't')
    case meow => exact describes_response state _ (matched_meow _ (state.records "meow"))

end Builtin

end AutoReply
