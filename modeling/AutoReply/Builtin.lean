import AutoReply.Registry
import AutoReply.Rule.Build

/-!
The rules that the bot has from the start. Their order matters: thanks and insults come before the
rules that answer to many messages.
-/

namespace AutoReply.Builtin

open AutoReply.Chat AutoReply.Rule

def thanksEmoji : EmojiId := ⟨1127702351252303892⟩
def cryEmoji : EmojiId := ⟨1127702202203521044⟩
def coolEmoji : EmojiId := ⟨1127705480471519243⟩
def waveEmoji : EmojiId := ⟨1127698005034807420⟩

/-- The emojis of the rules; all of them are animated. -/
def emoji? (id : EmojiId) : Option Emoji :=
  ([(thanksEmoji, "kurisuthumbsup"), (cryEmoji, "kurisucry"), (coolEmoji, "kurisucool"),
      (waveEmoji, "rinwave")].lookup id).map fun name => { id, name, animated := true }

/-- "I'm X" anywhere in a message; the second group is X. -/
def dadPattern : String := "^.*( |^)i['‘ʼ’]?m (.+)"

def dadReplacement : String := "Hi $\x7b2\x7d, I'm dad!"

def hugTemplates : List String :=
  ["heheehehehe \x7b0\x7d hugs \x7b1\x7d < 3 < 3 <  ##<#,3,33<#3,#3,,3,3,#<...",
    "\x7b0\x7d squeezes \x7b1\x7d tightly.",
    "\x7b0\x7d wraps their arms around \x7b1\x7d's",
    "\x7b0\x7d puts their arms around \x7b1\x7d and holds them tightly, because \x7b0\x7d likes " ++
      "\x7b1\x7d or is pleased to see \x7b1\x7d",
    "\x7b0\x7d holds \x7b1\x7d close to their body.",
    "\x7b0\x7d clasps \x7b1\x7d tightly in their arms.",
    "\x7b0\x7d wraps their arms around \x7b1\x7d's back in a warm embrace",
    "\x7b0\x7d holds \x7b1\x7d close to their body, likely to show that they like, love, or " ++
      "value them.",
    "\x7b0\x7d squeezes \x7b1\x7d tightly, probably to express affection.",
    "\x7b0\x7d is trapped with \x7b1\x7d's arms wrapped around their back.",
    "\x7b0\x7d sneaks up from behind \x7b1\x7d and puts their arms around \x7b1\x7d's waist."]

def patTemplates : List String :=
  ["\x7b0\x7d softly strokes \x7b1\x7d's head as a sign of affection.",
    "\x7b1\x7d smiled, slightly blushing, as \x7b0\x7d playfully taps \x7b1\x7d's head.",
    "\x7b0\x7d lets out a quiet purr as \x7b1\x7d's fingers gently scratches \x7b0\x7d's head.",
    "\x7b1\x7d timidly placed \x7b0\x7d's hand on their head.",
    "\x7b0\x7d reaches over and lightly taps \x7b1\x7d's head.",
    "\x7b0\x7d gently strokes \x7b1\x7d's head.",
    "\x7b0\x7d moves their hand over to \x7b1\x7d's head and gave it a pleasure feeling.",
    "\x7b0\x7d runs their finger through \x7b1\x7d's hair, lightly scratches \x7b1\x7d's head " ++
    "and caressing their hair strands.",
    "\x7b1\x7d timidly placed \x7b0\x7d's hand on their head while blushing intensely."]

/-- The message is meant for the bot: it mentions it or replies to it, follows a message of it, or
names it. -/
def addressedTo (bot : UserId) : Trigger :=
  .anyOf [.mentions bot true, .lastAuthor bot, .containing ["amadeus"]]

/-- An answer with an emoji to what is said about the bot: some phrases always count, some words
when they are meant for the bot. -/
def feedback (bot : UserId) (name : String) (phrases keywords : List String) (emojiName : String)
    (emoji : EmojiId) : Response :=
  .sendOrReact name
    (.anyOf [.containing phrases, .allOf [.containing keywords, addressedTo bot]])
    ("<a:" ++ emojiName ++ ":" ++ toString emoji ++ ">") emoji .message

def thanks (bot : UserId) : Response :=
  feedback bot "Thanks Bot" ["thanks bot", "good bot"] ["thank"] "kurisuthumbsup" thanksEmoji

def insult (bot : UserId) : Response :=
  feedback bot "Bad Bot" ["bad bot", "stupid bot"] ["shut", "bad", "stupid", "kys"] "kurisucry"
    cryEmoji

def praise (bot : UserId) : Response :=
  feedback bot "Cool Bot" ["epic bot", "cool bot"] ["epic", "cool", "poggers"] "kurisucool"
    coolEmoji

def dad : Except BuildError Response := do
  let trigger ← Trigger.ofPattern dadPattern
  let action ← Action.ofPattern dadPattern dadReplacement
  Response.withChance "Dad Bot" trigger action defaultChance

def nicu : Response :=
  .plain "Nicu" (.containing ["nicu"]) (.send "nicu nicu\nvery nicu shiza-chan")

def nullpo : Response :=
  .plain "Nullpo" (.containing ["nullpo"]) (.send "gah!")

def greeting (bot : UserId) : Except BuildError Response := do
  let named ← Trigger.ofPattern "^amadeus*"
  return .plain "Amadeus" (.anyOf [named, .mentions bot true])
    (.choose [.literal "uwu", .literal "?", .literal "hey", .literal "waddup",
      .computed fun _ event => event.author.displayName])

def farewell : Response :=
  .sendOrReact "Cyanide"
    (.phrases (.make ["cyanide", "cyan", "cya", "see you", "see ya"] false true))
    ("cyanide <a:rinwave:" ++ toString waveEmoji ++ ">") waveEmoji .message

def hug : Except BuildError Response := do
  let trigger ← Trigger.ofPattern "^\\.hug*"
  return .plain ".hug" trigger (.roleplay ⟨hugTemplates, bold⟩)

def pat : Except BuildError Response := do
  let trigger ← Trigger.ofPattern "^\\.pat*"
  return .plain ".pat" trigger (.roleplay ⟨patTemplates, bold⟩)

def meow : Except BuildError Response := do
  let heard ← Trigger.ofPattern "m[re]+o+w+~*"
  let trigger ← Trigger.throttled 5 heard
  Response.withChance "meow" trigger .echo defaultChance

def registry (bot : UserId) : Except BuildError Registry := do
  let dad ← dad
  let greeting ← greeting bot
  let hug ← hug
  let pat ← pat
  let meow ← meow
  return ⟨[thanks bot, insult bot, praise bot, dad, nicu, nullpo, greeting, farewell, hug, pat,
    meow]⟩

end AutoReply.Builtin
