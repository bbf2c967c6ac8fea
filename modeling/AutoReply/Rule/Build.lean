import AutoReply.Rule.Response

/-!
Making conditions, actions and rules from texts and numbers that may not be acceptable.
-/

namespace AutoReply.Rule

open AutoReply.Number

inductive BuildError
  | pattern (error : PatternError)
  | state (error : StateError)
  | windowTooLong
  deriving DecidableEq

def BuildError.message : BuildError → String
  | pattern .malformed => "invalid pattern"
  | pattern .tooLarge => "invalid pattern: too large"
  | state error => error.message
  | windowTooLong => "cooldown window too long"

def compilePattern (source : String) : Except BuildError Pattern :=
  (Pattern.compile source).mapError .pattern

namespace Trigger

def ofPattern (source : String) : Except BuildError Trigger :=
  (compilePattern source).map pattern

def throttled (seconds : Int) (inner : Trigger) : Except BuildError Trigger :=
  match throttled? seconds inner with
  | some trigger => .ok trigger
  | none => .error .windowTooLong

end Trigger

def Action.ofPattern (source replacement : String) : Except BuildError Action :=
  (compilePattern source).map fun pattern => .substitute { pattern, replacement }

def Response.withChance (name : String) (trigger : Trigger) (action : Action) (chance : Binary64) :
    Except BuildError Response :=
  (Response.randomChance name trigger action chance).mapError .state

end AutoReply.Rule
