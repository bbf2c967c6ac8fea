import AutoReply.Pattern.Node

/-!
How much room a pattern takes when all copies of its parts are laid out. Too large patterns are
refused.
-/

namespace AutoReply.Pattern

def CharSet.rangeCount : CharSet → Nat
  | points ranges => ranges.length
  | union left right => left.rangeCount + right.rangeCount
  | both left right => left.rangeCount + right.rangeCount
  | except left right => left.rangeCount + right.rangeCount
  | either left right => left.rangeCount + right.rangeCount
  | complement set => set.rangeCount + 1
  | folded set => 2 * set.rangeCount

def CharSet.isAscii : CharSet → Bool
  | points ranges => ranges.all fun range => range.2 < 128
  | union left right => left.isAscii && right.isAscii
  | both left right => left.isAscii || right.isAscii
  | except left _ => left.isAscii
  | either left right => left.isAscii && right.isAscii
  | complement _ => false
  | folded set => set.isAscii

/-- A range takes 8 bytes behind a head of 32; beyond ASCII, a state of its own. -/
def CharSet.size (set : CharSet) : Nat :=
  if set.isAscii then if set.rangeCount ≤ 1 then 32 else 32 + 8 * set.rangeCount
  else 32 + 64 * set.rangeCount

def Node.size : Node → Nat
  | empty => 32
  | one set => set.size
  | check _ => 32
  | group _ body => 64 + body.size
  | seq first second => first.size + second.size
  | either first second => 40 + first.size + second.size
  | loop body least most _ =>
      match most with
      | some most => least * body.size + (most - least) * (body.size + 40) + 32
      | none => max least 1 * body.size + 40

def Node.maxSize : Nat := 10 * 1024 * 1024

end AutoReply.Pattern
