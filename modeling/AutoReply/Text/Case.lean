import AutoReply.Text.CaseTable

/-!
The characters that a character may stand for when case does not count.
-/

namespace AutoReply.Text

def CaseRun.swap (run : CaseRun) : CaseRun :=
  ⟨run.image, run.image + (run.last - run.first), run.step, run.first⟩

def CaseRun.imageOf (run : CaseRun) (point : Nat) : Nat :=
  run.image + (point - run.first)

def caseVariants (point : Nat) : List Nat :=
  match caseGroups.find? fun group => group.contains point with
  | some group => group.filter (· != point)
  | none =>
      match casePairs.find? fun run => run.has point with
      | some run => [run.imageOf point]
      | none =>
          match casePairs.find? fun run => run.swap.has point with
          | some run => [run.swap.imageOf point]
          | none => []

end AutoReply.Text
