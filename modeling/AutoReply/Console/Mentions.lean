import AutoReply.Chat.Event
import AutoReply.Chat.Platform
import AutoReply.SortedMap
import AutoReply.Text.Blank
import AutoReply.Text.Letter
import AutoReply.Text.Lowercase
import AutoReply.Text.Parts

/-!
Words with an at sign, which stand for users. The bot is known by its name; everybody else gets a
number when they are first mentioned and keeps it.
-/

namespace AutoReply.Console

open AutoReply.Chat AutoReply.Text

abbrev KnownUsers := SortedMap String UserId

def firstGuest : UInt64 := 1000

/-- The name behind an at sign, without what is neither letter nor digit at its ends. -/
def mentionedName? : List Char → Option String
  | '@' :: name =>
      let name := trimWhere (fun character => !isAlphanumeric character) name
      if name.isEmpty then none else some (String.ofList name)
  | _ => none

def mentionedNames (line : String) : List String :=
  (words line.toList).filterMap mentionedName?

def identify (bot : Bot) (known : KnownUsers) (name : String) : UserId × KnownUsers :=
  if equalIgnoringAsciiCase name bot.name then (bot.id, known)
  else match known.lookup (lower name) with
    | some user => (user, known)
    | none =>
        let user : UserId := ⟨firstGuest + UInt64.ofNat known.size⟩
        (user, known.insert (lower name) user)

def identifyAll (bot : Bot) (known : KnownUsers) : List String → List Mention × KnownUsers
  | [] => ([], known)
  | name :: names =>
      let (id, next) := identify bot known name
      let (mentions, last) := identifyAll bot next names
      ({ id, name } :: mentions, last)

def mentionsIn (bot : Bot) (known : KnownUsers) (line : String) : List Mention × KnownUsers :=
  identifyAll bot known (mentionedNames line)

end AutoReply.Console
