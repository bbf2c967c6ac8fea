import AutoReply.Number.Reading
import AutoReply.Pattern.Brackets

/-!
Reading patterns.
-/

namespace AutoReply.Pattern.Reader

open AutoReply.Text AutoReply.Number AutoReply.Pattern.Escape

/-- Part of a pattern and how deeply it is nested. -/
structure Part where
  node : Node
  depth : Nat := 0

/-- What has been read inside the innermost parentheses: a part, or a change of the flags, which
cannot be repeated. -/
inductive Item
  | part (part : Part)
  | setting

/-- The rest of the text, and the groups opened so far with their names. -/
structure State where
  rest : List Char
  groups : Nat := 0
  names : List (List Char × Nat) := []

def Item.depth : Item → Nat
  | .part read => read.depth
  | .setting => 0

def Item.node : Item → Node
  | .part read => read.node
  | .setting => .empty

def sequence : List Node → Node
  | [] => .empty
  | node :: nodes => nodes.foldl .seq node

def choice : List Node → Node
  | [] => .empty
  | [node] => node
  | node :: nodes => .either node (choice nodes)

/-- The items in a row; they come last first. -/
def inRow (items : List Item) : Part :=
  let items := items.reverse
  let deepest := Brackets.deepest (items.map Item.depth)
  ⟨sequence (items.map Item.node), if items.length ≤ 1 then deepest else deepest + 1⟩

/-- The branches between bars; they come last first. -/
def branches (parts : List Part) : Part :=
  let parts := parts.reverse
  let deepest := Brackets.deepest (parts.map Part.depth)
  ⟨choice (parts.map Part.node), if parts.length ≤ 1 then deepest else deepest + 1⟩

def matchesOnlyEmpty : Node → Bool
  | .empty => true
  | .one _ => false
  | .check _ => true
  | .group _ body => matchesOnlyEmpty body
  | .seq first second => matchesOnlyEmpty first && matchesOnlyEmpty second
  | .either first second => matchesOnlyEmpty first && matchesOnlyEmpty second
  | .loop body _ most _ => matchesOnlyEmpty body || most == some 0

/-- A repetition. Of what matches only the empty text one copy is as good as many. -/
def repeated (body : Node) (least : Nat) (most : Option Nat) (greedy : Bool) : Node :=
  if matchesOnlyEmpty body then .loop body (min least 1) (some (min (most.getD 1) 1)) greedy
  else .loop body least most greedy

def repeatLast (flags : Flags) (items : List Item) (least : Nat) (most : Option Nat)
    (text : List Char) : Option (List Item × List Char) :=
  match items with
  | .part part :: items =>
      let (isLazy, rest) := match text with
        | '?' :: rest => (true, rest)
        | _ => (false, text)
      let greedy := isLazy == flags.lazyFirst
      some (.part ⟨repeated part.node least most greedy, part.depth + 1⟩ :: items, rest)
  | _ => none

/-- A count below `2 ^ 32`, with blanks around it; `digits` holds the digits read, last first. -/
def countDigits (flags : Flags) : Nat → List Char → List Char → List Char × List Char
  | fuel + 1, digits, digit :: rest =>
      if digit.isDigit then countDigits flags fuel (digit :: digits) (gap flags rest)
      else (digits.reverse, digit :: rest)
  | _, digits, rest => (digits.reverse, rest)

def count? (flags : Flags) (text : List Char) : Option Nat × List Char :=
  let text := dropBlanks text
  let (digits, rest) := countDigits flags (text.length + 1) [] text
  let count := if digits.isEmpty then none
    else if ofDigits 0 digits < 0x100000000 then some (ofDigits 0 digits) else none
  (count, gap flags (dropBlanks rest))

def bounds? (flags : Flags) (text : List Char) : Option ((Nat × Option Nat) × List Char) := do
  let (least, rest) := count? flags (gap flags text)
  let least ← least
  match rest with
  | '\x7d' :: rest => some ((least, some least), gap flags rest)
  | ',' :: rest =>
      match gap flags rest with
      | '\x7d' :: rest => some ((least, none), gap flags rest)
      | rest =>
          let (most, rest) := count? flags rest
          let most ← most
          match rest with
          | '\x7d' :: rest =>
              if least ≤ most then some ((least, some most), gap flags rest) else none
          | _ => none
  | _ => none

/-- The letters of flags up to a colon or a closing parenthesis, which is left. Every letter and the
sign for their negation may come once. -/
def flags? (flags : Flags) (value : Bool) : List Char → List Char → Option (Flags × List Char)
  | _, [] => none
  | seen, mark :: rest =>
      if mark = ':' || mark = ')' then
        if seen.head? == some '-' then none else some (flags, mark :: rest)
      else if seen.contains mark then none
      else if mark = '-' then flags? flags false (mark :: seen) rest
      else (flags.switch? mark value).bind fun flags => flags? flags value (mark :: seen) rest

def isNameCharacter (first : Bool) (character : Char) : Bool :=
  if first then character = '_' || isAlphabetic character
  else character = '_' || character = '.' || character = '[' || character = ']' ||
    isAlphanumeric character

def groupName? (state : State) (text : List Char) : Option (List Char × List Char) :=
  match splitFirst '>' text with
  | some (first :: others, rest) =>
      let name := first :: others
      if isNameCharacter true first && others.all (isNameCharacter false) &&
          !state.names.any (fun known => known.1 == name) then
        some (name, rest)
      else none
  | _ => none

/-- What an opening parenthesis begins. -/
inductive Opening
  | flags (flags : Flags)
  | plain (flags : Flags)
  | group (index : Nat)

def named? (state : State) (text : List Char) : Option (Opening × State) :=
  (groupName? state text).map fun read =>
    let index := state.groups + 1
    (.group index, ⟨read.2, index, (read.1, index) :: state.names⟩)

def opening? (flags : Flags) (state : State) (text : List Char) : Option (Opening × State) :=
  match gap flags text with
  | '?' :: 'P' :: '<' :: rest => named? state rest
  | '?' :: '<' :: '=' :: _ => none
  | '?' :: '<' :: '!' :: _ => none
  | '?' :: '<' :: rest => named? state rest
  | '?' :: rest =>
      match flags? flags true [] rest with
      | some (changed, ':' :: after) => some (.plain changed, { state with rest := after })
      | some (changed, ')' :: after) =>
          if rest.head? == some ')' then none
          else some (.flags changed, { state with rest := after })
      | _ => none
  | rest => some (.group (state.groups + 1), { state with rest, groups := state.groups + 1 })

def primitive? (flags : Flags) (text : List Char) : Option (Node × List Char) :=
  match text with
  | [] => none
  | '.' :: rest => flags.dot?.map fun set => (.one set, rest)
  | '^' :: rest => some (.check flags.lineStart, rest)
  | '$' :: rest => some (.check flags.lineEnd, rest)
  | text =>
      match Brackets.primitive? flags text with
      | some (.letter letter, rest) => (flags.letterSet? letter).map fun set => (.one set, rest)
      | some (.set set, rest) => some (.one set, rest)
      | some (.check assertion, rest) => some (.check assertion, rest)
      | none => none

/-- Reads up to the closing parenthesis or the end. `items` are those of the current branch and
`parts` the branches before it. -/
def read? : Nat → Flags → List Part → List Item → State → Option (Part × State)
  | 0, _, _, _, _ => none
  | fuel + 1, flags, parts, items, state =>
      let add := fun (part : Part) (rest : List Char) =>
        read? fuel flags parts (.part part :: items) { state with rest }
      let again := fun (least : Nat) (most : Option Nat) (rest : List Char) => do
        let (items, rest) ← repeatLast flags items least most rest
        read? fuel flags parts items { state with rest }
      match gap flags state.rest with
      | [] => some (branches (inRow items :: parts), { state with rest := [] })
      | ')' :: rest => some (branches (inRow items :: parts), { state with rest := ')' :: rest })
      | '|' :: rest => read? fuel flags (inRow items :: parts) [] { state with rest }
      | '(' :: rest => do
          let (opened, state) ← opening? flags state rest
          match opened with
          | .flags changed => read? fuel changed parts (.setting :: items) state
          | .plain inner =>
              let (part, state) ← read? fuel inner [] [] state
              match state.rest with
              | ')' :: rest =>
                  read? fuel flags parts (.part ⟨part.node, part.depth + 1⟩ :: items)
                    { state with rest }
              | _ => none
          | .group index =>
              let (part, state) ← read? fuel flags [] [] state
              match state.rest with
              | ')' :: rest =>
                  read? fuel flags parts (.part ⟨.group index part.node, part.depth + 1⟩ :: items)
                    { state with rest }
              | _ => none
      | '[' :: rest => do
          let (deep, rest) ← Brackets.set? flags rest
          add ⟨.one deep.set, deep.depth⟩ rest
      | '?' :: rest => again 0 (some 1) rest
      | '*' :: rest => again 0 none rest
      | '+' :: rest => again 1 none rest
      | '\x7b' :: rest => do
          let ((least, most), rest) ← bounds? flags rest
          again least most rest
      | text => do
          let (node, rest) ← primitive? flags text
          add ⟨node, 0⟩ rest

def maxDepth : Nat := 250

/-- Reads a whole pattern; the state holds the groups. -/
def pattern? (source : List Char) : Option (Node × State) :=
  match read? (source.length + 1) {} [] [] { rest := source } with
  | some (part, state) =>
      if state.rest.isEmpty && part.depth ≤ maxDepth then some (part.node, state) else none
  | none => none

end AutoReply.Pattern.Reader
