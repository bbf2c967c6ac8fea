import AutoReply.Number.Reading
import AutoReply.Settings.Value
import AutoReply.SortedMap
import AutoReply.Text.Blank
import AutoReply.Toml.Text

/-!
Settings from environment variables. A variable whose name begins with `AMADEUS_` gives the value
at a path; two underscores divide the parts of the path.
-/

namespace AutoReply.Settings

open AutoReply.Number AutoReply.Text Toml

abbrev Environment := SortedMap String String

def variableStart : String := "AMADEUS_"

/-- What follows a start in a name, without regard to the case of ASCII letters. -/
def afterStartIgnoringCase (start name : List Char) : Option (List Char) :=
  if (name.take start.length).map Char.toLower = start.map Char.toLower then
    some (name.drop start.length)
  else none

def pointed : List Char → List Char
  | '_' :: '_' :: rest => '.' :: pointed rest
  | character :: rest => character :: pointed rest
  | [] => []

/-- The path that a variable stands for; a path with an empty part stands for nothing. -/
def pathOf (name : String) : Option (List String) :=
  match afterStartIgnoringCase variableStart.toList name.toList with
  | none => none
  | some rest =>
      let parts := splitWhere (· == '.') ((trim (pointed rest)).map Char.toLower)
      if parts.any List.isEmpty then none else some (parts.map String.ofList)

namespace Value

def isAsciiBlank (character : Char) : Bool :=
  character == ' ' || character == '\t' || character == '\n' || character == '\x0c' ||
    character == '\r'

def isSeparator (character : Char) : Bool :=
  character == ',' || character == '\x7b' || character == '\x7d' || character == '[' ||
    character == ']'

def asciiBlanks : Scan Unit := do
  let _ ← Scan.takeWhile isAsciiBlank

/-- A number with a point, a whole number that fits into 64 bits with or without a sign, or a
text. -/
def plain (written : List Char) : Value :=
  match if written.contains '.' then Binary64.ofText? written else none with
  | some number => real number
  | none =>
      match integer? written with
      | some number =>
          if -0x8000000000000000 ≤ number ∧ number < wordCount then integer number
          else text (String.ofList written)
      | none => text (String.ofList written)

def memberName : Scan String := do
  match ← Scan.peek with
  | some '"' => return String.ofList (← lineText)
  | _ =>
      let name ← Scan.takeWhile isKeyCharacter
      guard (!name.isEmpty)
      return String.ofList name

mutual

def scan : Nat → Scan Value
  | 0 => failure
  | fuel + 1 => do
      asciiBlanks
      let value ←
        if ← Scan.accept "true".toList then pure (flag true)
        else if ← Scan.accept "false".toList then pure (flag false)
        else match ← Scan.peek with
          | some '\x7b' => do
              Scan.dropCount 1
              pure (table (← scanMembers fuel []))
          | some '[' => do
              Scan.dropCount 1
              pure (list (← scanItems fuel))
          | some '"' => do pure (text (String.ofList (← lineText)))
          | some '\'' => do
              Scan.dropCount 1
              let character ← Scan.next
              Scan.expect ['\'']
              pure (text character.toString)
          | _ => do
              let written ← Scan.takeWhile fun character => !isSeparator character
              pure (plain (trim written))
      asciiBlanks
      return value

/-- The items of a list behind its opening bracket; a comma may follow the last one. -/
def scanItems : Nat → Scan (List Value)
  | 0 => failure
  | fuel + 1 => do
      if ← Scan.accept [']'] then return []
      else
        let item ← scan fuel
        if ← Scan.accept [','] then return item :: (← scanItems fuel)
        else
          Scan.expect [']']
          return [item]

def scanMembers : Nat → List (String × Value) → Scan (List (String × Value))
  | 0, _ => failure
  | fuel + 1, members => do
      if ← Scan.accept ['\x7d'] then return members
      else
        asciiBlanks
        let name ← memberName
        asciiBlanks
        Scan.expect ['=']
        let members := put name (← scan fuel) members
        if ← Scan.accept [','] then scanMembers fuel members
        else
          Scan.expect ['\x7d']
          return members

end

/-- The value that the text of a variable stands for; a text that is nothing else stands for
itself. -/
def ofVariable (written : String) : Value :=
  match scan (2 * written.length + 2) written.toList with
  | some (value, []) => value
  | _ => text written

end Value

def ofEnvironment (environment : Environment) : Value :=
  .layered (environment.entries.filterMap fun (name, written) =>
    (pathOf name).map fun path => .nested path (.ofVariable written))

end AutoReply.Settings
