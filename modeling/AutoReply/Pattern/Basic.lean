import AutoReply.Pattern.Reader
import AutoReply.Pattern.Replacement
import AutoReply.Pattern.Size

/-!
Patterns: compiling them, finding them in a text and replacing what they match. Case does not count,
and lines have starts and ends of their own, unless a pattern says otherwise.
-/

namespace AutoReply

open AutoReply.Pattern

inductive PatternError
  | malformed
  | tooLarge
  deriving DecidableEq

structure Pattern where
  source : String
  node : Node
  /-- The numbers of the groups that have names. -/
  names : List (List Char × Nat)
  deriving DecidableEq

namespace Pattern

def compile (source : String) : Except PatternError Pattern :=
  match Reader.pattern? source.toList with
  | none => .error .malformed
  | some (node, state) =>
      if node.size ≤ Node.maxSize then .ok ⟨source, node, state.names⟩ else .error .tooLarge

/-- The preferred match that begins at a place: where it ends, and its groups, of which number zero
is the whole. -/
def matchAt (pattern : Pattern) (cursor : Cursor) : Option Thread :=
  (pattern.node.first? [] (.start cursor)).map fun ending => ending.take 0 cursor

def occursFrom (pattern : Pattern) (offset : Nat) (previous : Option Char) : List Char → Bool
  | [] => (pattern.matchAt ⟨offset, previous, []⟩).isSome
  | character :: rest =>
      (pattern.matchAt ⟨offset, previous, character :: rest⟩).isSome ||
        pattern.occursFrom (offset + 1) (some character) rest

def isMatch (pattern : Pattern) (text : String) : Bool :=
  pattern.occursFrom 0 none text.toList

/-- The match at a place; an empty one does not count just behind another match. -/
def nextMatch (pattern : Pattern) (behindMatch : Bool) (cursor : Cursor) : Option Thread :=
  (pattern.matchAt cursor).filter fun ending =>
    !(behindMatch && ending.cursor.offset == cursor.offset)

/-- Replaces the matches of the text from a place on, after the first `skip` characters, which
belong to the match before. -/
def replaceFrom (pattern : Pattern) (replacement : List Char) (offset : Nat)
    (previous : Option Char) : (skip : Nat) → (behindMatch : Bool) → List Char → List Char
  | _, behindMatch, [] =>
      match pattern.nextMatch behindMatch ⟨offset, previous, []⟩ with
      | some ending => expand pattern.names ending.groups replacement
      | none => []
  | skip + 1, _, character :: rest =>
      pattern.replaceFrom replacement (offset + 1) (some character) skip true rest
  | 0, behindMatch, character :: rest =>
      match pattern.nextMatch behindMatch ⟨offset, previous, character :: rest⟩ with
      | none =>
          character :: pattern.replaceFrom replacement (offset + 1) (some character) 0 false rest
      | some ending =>
          let filled := expand pattern.names ending.groups replacement
          let length := ending.cursor.offset - offset
          if length = 0 then
            filled ++ character ::
              pattern.replaceFrom replacement (offset + 1) (some character) 0 false rest
          else
            filled ++
              pattern.replaceFrom replacement (offset + 1) (some character) (length - 1) true rest

def replaceAll (pattern : Pattern) (text replacement : String) : String :=
  String.ofList (pattern.replaceFrom replacement.toList 0 none 0 false text.toList)

end Pattern

end AutoReply
