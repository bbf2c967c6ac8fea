import AutoReply.Number.Reading

/-!
Templates with numbered places for arguments. A doubled brace stands for one, a place for its
argument, and any other brace for itself.
-/

namespace AutoReply.Rule.Template

open AutoReply.Number

/-- The argument named between a brace and the next closing one, and how many characters lie from
the opening brace to the closing one. -/
def argument? (arguments : List String) (afterBrace : List Char) : Option (String × Nat) :=
  let inside := afterBrace.takeWhile (· != '}')
  if inside.length < afterBrace.length then
    ((natural? inside).bind fun index => arguments[index]?).map fun argument =>
      (argument, inside.length + 1)
  else none

/-- What a template says after its first `skip` characters, with its places filled. -/
def fillAfter (arguments : List String) : Nat → List Char → List Char
  | _, [] => []
  | skip + 1, _ :: rest => fillAfter arguments skip rest
  | 0, character :: rest =>
      if (character = '{' || character = '}') && rest.head? == some character then
        character :: fillAfter arguments 1 rest
      else
        match if character = '{' then argument? arguments rest else none with
        | some (argument, length) => argument.toList ++ fillAfter arguments length rest
        | none => character :: fillAfter arguments 0 rest

def format (template : String) (arguments : List String) : String :=
  String.ofList (fillAfter arguments 0 template.toList)

end AutoReply.Rule.Template
