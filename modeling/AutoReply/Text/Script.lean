import AutoReply.Text.Ranges
import AutoReply.Text.ScriptTable

/-!
The scripts in which characters are written.
-/

namespace AutoReply.Text

/-- Reads the runs; `size` is the part of the current run's length that has been read. -/
def readScriptRuns (start : Nat) (tag : List Char) (size : Nat) :
    List Char → List (String × Nat × Nat)
  | [] => [(String.ofList tag, start, start + max size 1 - 1)]
  | character :: rest =>
      if character.isDigit then readScriptRuns start tag (size * 10 + (character.toNat - 48)) rest
      else if character.isUpper && !tag.isEmpty then
        (String.ofList tag, start, start + max size 1 - 1) ::
          readScriptRuns (start + max size 1) [character] 0 rest
      else readScriptRuns start (tag ++ [character]) size rest

def scriptTable : List (String × Nat × Nat) :=
  readScriptRuns 0 [] 0 scriptRuns.toList

def scriptTag? (name : String) : Option String :=
  (scriptNames.find? fun script => script.2.contains name).map Prod.fst

def scriptRanges (tag : String) : Ranges :=
  (scriptTable.filter fun run => run.1 == tag).map fun run => run.2

/-- Where the scripts in which a character is used differ from its own script. -/
def scriptExtensionRanges (tag : String) : Ranges :=
  match scriptExtensions.find? fun script => script.1 == tag with
  | some script => .ofGaps script.2
  | none => []

end AutoReply.Text
