import AutoReply.Pattern.CharSet

/-!
Patterns as trees, and how they match. From a place in a text a pattern may end at many places;
`Node.ends` lists them in order of preference, each once, with the groups taken on the way.
-/

namespace AutoReply.Pattern

/-- A place in a text. -/
structure Cursor where
  offset : Nat
  previous : Option Char
  rest : List Char

namespace Cursor

def start (text : List Char) : Cursor :=
  ⟨0, none, text⟩

def advance (cursor : Cursor) (character : Char) (rest : List Char) : Cursor :=
  ⟨cursor.offset + 1, some character, rest⟩

def textTo (cursor later : Cursor) : List Char :=
  cursor.rest.take (later.offset - cursor.offset)

end Cursor

/-- The two sides of a place at which a word may begin or end. -/
inductive WordSide
  | boundary | inside | start | ending | startHalf | endingHalf
  deriving DecidableEq

inductive Assertion
  | textStart
  | textEnd
  | lineStart
  | lineEnd
  /-- Carriage returns end lines as well. -/
  | anyLineStart
  | anyLineEnd
  | word (side : WordSide) (characters : CharSet)
  deriving DecidableEq

def WordSide.holds (before after : Bool) : WordSide → Bool
  | boundary => before != after
  | inside => before == after
  | start => !before && after
  | ending => before && !after
  | startHalf => !before
  | endingHalf => !after

def Assertion.holds (cursor : Cursor) : Assertion → Bool
  | textStart => cursor.previous.isNone
  | textEnd => cursor.rest.isEmpty
  | lineStart => cursor.previous.all (· == '\n')
  | lineEnd => cursor.rest.head?.all (· == '\n')
  | anyLineStart =>
      match cursor.previous with
      | none => true
      | some '\n' => true
      | some '\r' => cursor.rest.head? != some '\n'
      | some _ => false
  | anyLineEnd =>
      match cursor.rest.head? with
      | none => true
      | some '\r' => true
      | some '\n' => cursor.previous != some '\r'
      | some _ => false
  | word side characters =>
      side.holds (cursor.previous.any fun character => characters.has character.toNat)
        (cursor.rest.head?.any fun character => characters.has character.toNat)

inductive Node
  | empty
  | one (set : CharSet)
  | check (assertion : Assertion)
  | group (index : Nat) (body : Node)
  | seq (first second : Node)
  | either (first second : Node)
  | loop (body : Node) (least : Nat) (most : Option Nat) (greedy : Bool)
  deriving DecidableEq

abbrev Path := List Nat

/-- A way through a pattern up to a place. It does not pass the same fork twice at one place. -/
structure Thread where
  cursor : Cursor
  groups : List (Nat × List Char)
  /-- The forks passed since the last character was read. -/
  passed : List Path

namespace Thread

def start (cursor : Cursor) : Thread :=
  ⟨cursor, [], []⟩

def pass (thread : Thread) (fork : Path) : Thread :=
  { thread with passed := fork :: thread.passed }

def hasPassed (thread : Thread) (fork : Path) : Bool :=
  thread.passed.contains fork

def take (thread : Thread) (index : Nat) (opened : Cursor) : Thread :=
  { thread with groups := (index, opened.textTo thread.cursor) :: thread.groups }

end Thread

/-- A set of offsets, with a bit for each. -/
structure Offsets where
  bits : Nat := 0

namespace Offsets

def contains (offsets : Offsets) (offset : Nat) : Bool :=
  offsets.bits.testBit offset

def insert (offsets : Offsets) (offset : Nat) : Offsets :=
  ⟨offsets.bits ||| 1 <<< offset⟩

theorem contains_insert (offsets : Offsets) (offset other : Nat) :
    (offsets.insert offset).contains other =
      (offsets.contains other || decide (offset = other)) := by
  simp [contains, insert, Nat.testBit_or, Nat.one_shiftLeft, Nat.testBit_two_pow]

end Offsets

def distinctAfter (seen : Offsets) : List Thread → List Thread
  | [] => []
  | thread :: rest =>
      if seen.contains thread.cursor.offset then distinctAfter seen rest
      else thread :: distinctAfter (seen.insert thread.cursor.offset) rest

def distinct (threads : List Thread) : List Thread :=
  distinctAfter {} threads

theorem head?_distinct (threads : List Thread) : (distinct threads).head? = threads.head? := by
  cases threads <;> simp [distinct, distinctAfter, Offsets.contains]

/-- `count` copies in a row behind each of the threads; `step index` matches one copy. -/
def copies (step : Nat → Thread → List Thread) : Nat → Nat → List Thread → List Thread
  | 0, _, threads => threads
  | count + 1, index, threads =>
      copies step count (index + 1) (distinct (threads.flatMap (step index)))

/-- Goes on from a place by up to `count` more copies, with a fork before each. From every place a
copy is gone on to only once; `reached` holds their offsets, those of the next copy first, and
`found` the threads that are out, the last one first. -/
def options (step : Nat → Thread → List Thread) (fork : Nat → Path) (greedy : Bool) :
    Nat → Nat → List Offsets × List Thread → Thread → List Offsets × List Thread
  | 0, _, (reached, found), thread => (reached, thread :: found)
  | count + 1, index, (reached, found), thread =>
      let next := reached.headD {}
      if next.contains thread.cursor.offset || thread.hasPassed (fork index) then (reached, found)
      else
        let thread := thread.pass (fork index)
        let next := next.insert thread.cursor.offset
        let found := if greedy then found else thread :: found
        let (deeper, found) := (step index thread).foldl
          (options step fork greedy count (index + 1)) (reached.tail, found)
        (next :: deeper, if greedy then thread :: found else found)

/-- Goes on from a place behind a copy: another copy, or out. Every place is gone on from only
once; `reached` holds their offsets and `found` the threads that are out, the last one first. `fuel`
bounds the number of copies in a row. -/
def goOn (step : Thread → List Thread) (fork : Path) (greedy : Bool) :
    Nat → Offsets × List Thread → Thread → Offsets × List Thread
  | 0, state, _ => state
  | fuel + 1, (reached, found), thread =>
      if reached.contains thread.cursor.offset || thread.hasPassed fork then (reached, found)
      else
        let thread := thread.pass fork
        let reached := reached.insert thread.cursor.offset
        let found := if greedy then found else thread :: found
        let (reached, found) := (step thread).foldl (goOn step fork greedy fuel) (reached, found)
        (reached, if greedy then thread :: found else found)

def oneOrMore (step : Thread → List Thread) (fork : Path) (greedy : Bool) (thread : Thread) :
    List Thread :=
  ((step thread).foldl (goOn step fork greedy (thread.cursor.rest.length + 1)) ({}, [])).2.reverse

/-- Two choices for the same thread, the first of which is preferred when `greedy`. -/
def prefer (greedy : Bool) (more : List Thread) (thread : Thread) : List Thread :=
  if greedy then more ++ [thread] else thread :: more

def zeroOrMore (step : Thread → List Thread) (before behind : Path) (greedy : Bool)
    (thread : Thread) : List Thread :=
  if thread.hasPassed before then []
  else
    let thread := thread.pass before
    distinct (prefer greedy (oneOrMore step behind greedy thread) thread)

def repetitions (step : Nat → Thread → List Thread) (fork : Nat → Path) (greedy : Bool) :
    (least : Nat) → (most : Option Nat) → Thread → List Thread
  | least, some most, thread =>
      let threads := copies step least 0 [thread]
      distinct
        (threads.foldl (options step fork greedy (most - least) least) ([], [])).2.reverse
  | 0, none, thread => zeroOrMore (step 0) (fork 0) (fork 1) greedy thread
  | least + 1, none, thread =>
      distinct ((copies step least 0 [thread]).flatMap
        (oneOrMore (step least) (fork (least + 1)) greedy))

namespace Node

/-- Where the pattern ends that begins at a thread's place, the preferred end first. -/
def ends (path : Path) : Node → Thread → List Thread
  | empty, thread => [thread]
  | one set, thread =>
      match thread.cursor.rest with
      | [] => []
      | character :: rest =>
          if set.has character.toNat then
            [⟨thread.cursor.advance character rest, thread.groups, []⟩]
          else []
  | check assertion, thread => if assertion.holds thread.cursor then [thread] else []
  | group index body, thread =>
      (ends (0 :: path) body thread).map fun ending => ending.take index thread.cursor
  | seq first second, thread =>
      distinct ((ends (0 :: path) first thread).flatMap (ends (1 :: path) second))
  | either first second, thread =>
      if thread.hasPassed path then []
      else
        let thread := thread.pass path
        distinct (ends (0 :: path) first thread ++ ends (1 :: path) second thread)
  | loop body least most greedy, thread =>
      repetitions (fun index => ends (2 * index :: path) body)
        (fun index => (2 * index + 1) :: path) greedy least most thread

def first? (path : Path) : Node → Thread → Option Thread
  | group index body, thread =>
      (first? (0 :: path) body thread).map fun ending => ending.take index thread.cursor
  | seq first second, thread =>
      (ends (0 :: path) first thread).findSome? (first? (1 :: path) second)
  | node, thread => (ends path node thread).head?

theorem first?_eq_head?_ends (path : Path) (node : Node) (thread : Thread) :
    node.first? path thread = (node.ends path thread).head? := by
  induction node generalizing path thread with
  | group index body hypothesis => simp [first?, ends, hypothesis]
  | seq first second _ hypothesis =>
      have same : first? (1 :: path) second =
          fun thread => (ends (1 :: path) second thread).head? := funext (hypothesis (1 :: path))
      simp [first?, ends, head?_distinct, List.head?_flatMap, same]
  | _ => rfl

end Node

end AutoReply.Pattern
