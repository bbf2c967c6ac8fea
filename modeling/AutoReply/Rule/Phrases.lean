import AutoReply.Text.Lowercase
import AutoReply.Text.Parts

/-!
Fixed phrases to look for in a text.
-/

namespace AutoReply.Rule

open AutoReply.Text

/-- Phrases that a text equals or contains; without regard to case they are kept in lower case. -/
structure Phrases where
  phrases : List String
  inside : Bool
  caseSensitive : Bool
  deriving DecidableEq

namespace Phrases

def make (phrases : List String) (inside caseSensitive : Bool) : Phrases :=
  ⟨if caseSensitive then phrases else phrases.map lower, inside, caseSensitive⟩

def isMatch (phrases : Phrases) (text : String) : Bool :=
  let text := if phrases.caseSensitive then text else lower text
  phrases.phrases.any fun phrase =>
    if phrases.inside then contains phrase.toList text.toList else text = phrase

end Phrases

end AutoReply.Rule
