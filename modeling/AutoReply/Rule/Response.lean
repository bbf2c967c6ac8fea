import AutoReply.Number.Text
import AutoReply.Rule.Action
import AutoReply.Rule.Trigger

/-!
Rules: a named condition with an action, and the settings of a rule that can be changed while the
bot runs.
-/

namespace AutoReply.Rule

open AutoReply.Chat AutoReply.Number AutoReply.Text

/-- Why a rule does not accept a state. -/
inductive StateError
  | unsupported (name : String)
  | invalidMode (state : String)
  | notANumber (state : String)
  | outOfRange (number : Binary64)
  deriving DecidableEq

def StateError.message : StateError → String
  | unsupported name => "cannot set a state for response '" ++ name ++ "'"
  | invalidMode state =>
      "state can only be either \"message\" or \"react\", not \"" ++ state ++ "\""
  | notANumber state =>
      state ++ " is not a valid state for this response, it has to be a floating point number"
  | outOfRange number =>
      String.ofList number.shown ++
        " is not a valid probability, it needs to be between 0 and 1 (inclusive)"

inductive ReplyMode
  | message
  | react
  deriving DecidableEq

def ReplyMode.text : ReplyMode → String
  | message => "message"
  | react => "react"

def ReplyMode.ofText (state : String) : Except StateError ReplyMode :=
  if state = "message" then .ok .message
  else if state = "react" then .ok .react
  else .error (.invalidMode state)

def onePlace : Nat := 1023 * leadingBit

def isProbability : Binary64 → Bool
  | .finite negative place => if negative then place.val == 0 else place.val ≤ onePlace
  | _ => false

def validChance (chance : Binary64) : Except StateError Binary64 :=
  if isProbability chance then .ok chance else .error (.outOfRange chance)

def chanceOfText (state : String) : Except StateError Binary64 :=
  match Binary64.ofText? (trim state.toList) with
  | none => .error (.notANumber state)
  | some .notANumber => .error (.notANumber state)
  | some chance => validChance chance

def chanceText (chance : Binary64) : String :=
  String.ofList (if chance.isWhole then chance.fixed 1 else chance.shown)

def defaultChance : Binary64 := .ofRatio false 1 2

/-- What a rule does when its condition holds, with the state that can be changed. -/
inductive ResponseKind
  | plain (action : Action)
  | sendOrReact (message react : Action) (mode : ReplyMode)
  | randomChance (action : Action) (chance : Binary64)

def ResponseKind.label : ResponseKind → String
  | plain _ => "plain"
  | sendOrReact _ _ _ => "send_or_react"
  | randomChance _ _ => "random_chance"

structure Response where
  name : String
  trigger : Trigger
  kind : ResponseKind
  enabled : Bool := true

namespace Response

def plain (name : String) (trigger : Trigger) (action : Action) : Response :=
  { name, trigger, kind := .plain action }

def sendOrReact (name : String) (trigger : Trigger) (message : String) (emoji : EmojiId)
    (mode : ReplyMode) : Response :=
  { name, trigger, kind := .sendOrReact (.send message) (.react emoji) mode }

def randomChance (name : String) (trigger : Trigger) (action : Action) (chance : Binary64) :
    Except StateError Response :=
  (validChance chance).map fun chance => { name, trigger, kind := .randomChance action chance }

def isNamed (response : Response) (name : String) : Bool :=
  lower response.name == lower name

def noState : String := "N/A"

def state (response : Response) : String :=
  match response.kind with
  | .plain _ => noState
  | .sendOrReact _ _ mode => mode.text
  | .randomChance _ chance => chanceText chance

def mode? (response : Response) : Option ReplyMode :=
  match response.kind with
  | .sendOrReact _ _ mode => some mode
  | _ => none

def chance? (response : Response) : Option Binary64 :=
  match response.kind with
  | .randomChance _ chance => some chance
  | _ => none

def activeAction (response : Response) : Action :=
  match response.kind with
  | .plain action => action
  | .sendOrReact message _ .message => message
  | .sendOrReact _ react .react => react
  | .randomChance action _ => action

def setState (response : Response) (state : String) : Except StateError Response :=
  match response.kind with
  | .plain _ => .error (.unsupported response.name)
  | .sendOrReact message react _ =>
      (ReplyMode.ofText state).map fun mode =>
        { response with kind := .sendOrReact message react mode }
  | .randomChance action _ =>
      (chanceOfText state).map fun chance =>
        { response with kind := .randomChance action chance }

/-- The rule after a state has been tried on it. -/
def tuned (response : Response) (state : String) : Response :=
  match response.setState state with
  | .ok changed => changed
  | .error _ => response

def setEnabled (response : Response) (enabled : Bool) : Response :=
  { response with enabled }

def check (platform : Platform) (event : MessageEvent) (response : Response) : Checked Response :=
  if response.enabled then
    (response.trigger.check platform event).map fun trigger => { response with trigger }
  else ⟨false, response, {}⟩

/-- A roll fails when it is at or above the chance; none is at or above what is no number. -/
def rollSucceeds (luck : Luck) : Binary64 → Bool
  | .finite negative place => !negative && luck.roll.val * Nat.pow 2 1021 < units place
  | .infinite negative => !negative
  | .notANumber => true

/-- Does what the rule does when its condition holds; with a chance, only if the roll succeeds. -/
def apply (platform : Platform) (luck : Luck) (event : MessageEvent) (response : Response) :
    Trace × Option ApiError :=
  match response.kind with
  | .randomChance action chance =>
      if rollSucceeds luck chance then action.apply platform luck event else ({}, none)
  | _ => response.activeAction.apply platform luck event

end Response

end AutoReply.Rule
