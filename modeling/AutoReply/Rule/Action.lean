import AutoReply.Pattern.Basic
import AutoReply.Rule.Luck
import AutoReply.Rule.Template
import AutoReply.Text.Blank
import AutoReply.Trace

/-!
What the bot does when a rule applies: it makes one call on the platform at most.
-/

namespace AutoReply.Rule

open AutoReply.Chat AutoReply.Text

inductive Candidate
  | literal (text : String)
  | computed (text : Bot → MessageEvent → String)

def Candidate.render (bot : Bot) (event : MessageEvent) : Candidate → String
  | literal text => text
  | computed text => text bot event

/-- Sends the text of the message with the matches of a pattern replaced. -/
structure Substitution where
  pattern : Pattern
  replacement : String

def Substitution.render (substitution : Substitution) (text : String) : String :=
  if substitution.pattern.isMatch text then
    substitution.pattern.replaceAll text substitution.replacement
  else substitution.replacement

/-- Templates for what one user does to another; place zero is for the one who acts. -/
structure Roleplay where
  templates : List String
  decorate : String → String

def bold (name : String) : String :=
  "**" ++ name ++ "**"

namespace Roleplay

/-- The users who are mentioned, else the words after the first one, else the bot. -/
def targets (bot : Bot) (event : MessageEvent) : List String :=
  if !event.mentions.isEmpty then event.mentions.map Mention.name
  else
    let others := (words event.text.toList).drop 1
    if !others.isEmpty then others.map String.ofList else [bot.name]

def block (roleplay : Roleplay) (luck : Luck) (actor : String) (number : Nat) (target : String) :
    Option String :=
  (luck.choose number roleplay.templates).map fun template =>
    Template.format template [roleplay.decorate actor, roleplay.decorate target]

/-- A block for each target, with blank lines between them; nothing without templates. -/
def render (roleplay : Roleplay) (bot : Bot) (luck : Luck) (event : MessageEvent) :
    Option String :=
  if roleplay.templates.isEmpty then none
  else
    let targets := targets bot event
    let blocks := targets.zipIdx.filterMap fun (target, number) =>
      roleplay.block luck event.author.name number target
    some ("\n\n".intercalate blocks)

end Roleplay

inductive Action
  | send (text : String)
  | substitute (substitution : Substitution)
  | choose (candidates : List Candidate)
  | react (emoji : EmojiId)
  | roleplay (play : Roleplay)

namespace Action

def echo : Action :=
  choose [.computed fun _ event => event.text]

def label : Action → String
  | send _ => "literal_send"
  | substitute _ => "regex_send"
  | choose _ => "random_literal"
  | react _ => "react"
  | roleplay _ => "random_template"

def effect (bot : Bot) (luck : Luck) (event : MessageEvent) : Action → Except Entry Effect
  | send text => .ok (.sendText event.channel text)
  | substitute substitution => .ok (.sendText event.channel (substitution.render event.text))
  | choose candidates =>
      match luck.choose 0 candidates with
      | some candidate => .ok (.sendText event.channel (candidate.render bot event))
      | none => .error { severity := .debug, message := "Random literal action has no candidates" }
  | react id =>
      match bot.emoji? id with
      | some emoji => .ok (.react event.channel event.id emoji)
      | none =>
          .error
            { severity := .debug
              message := "Emoji could not be resolved, skipping reaction"
              fields := [("emoji", .text (toString id))] }
  | .roleplay play =>
      match play.render bot luck event with
      | some text => .ok (.sendRich event.channel (.untitled text))
      | none => .error { severity := .debug, message := "Template action has no templates" }

def apply (platform : Platform) (luck : Luck) (event : MessageEvent) (action : Action) :
    Trace × Option ApiError :=
  match action.effect platform.toBot luck event with
  | .ok effect => attempt platform effect
  | .error note => (.ofEntry note, none)

end Action

end AutoReply.Rule
