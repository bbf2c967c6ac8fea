/-!
Sets of code points as ascending closed ranges, and their compact written form.
-/

namespace AutoReply.Text

abbrev Ranges := List (Nat × Nat)

def Ranges.has (ranges : Ranges) (point : Nat) : Bool :=
  ranges.any fun range => range.1 ≤ point && point ≤ range.2

def numbersFrom (value : Nat) : List Char → List Nat
  | [] => [value]
  | digit :: rest =>
      if digit = ' ' then value :: numbersFrom 0 rest
      else numbersFrom (value * 10 + (digit.toNat - 48)) rest

/-- A gap before each range and the length of the range, both counted in code points. -/
def rangesOfGaps (start : Nat) : List Nat → Ranges
  | gap :: size :: rest =>
      (start + gap, start + gap + size - 1) :: rangesOfGaps (start + gap + size) rest
  | _ => []

def Ranges.ofGaps (written : String) : Ranges :=
  rangesOfGaps 0 (numbersFrom 0 written.toList)

end AutoReply.Text
