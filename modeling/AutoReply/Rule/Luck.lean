/-!
Chance, as far as it plays a part in the answer to one message.
-/

namespace AutoReply.Rule

/-- A roll stands for the draw `roll / 2 ^ 53`, at least zero and below one; the picks choose from
lists. -/
structure Luck where
  roll : Fin 0x20000000000000
  picks : Nat → Nat

def Luck.choose {α : Type} (luck : Luck) (number : Nat) (items : List α) : Option α :=
  items[luck.picks number % items.length]?

def scramble (word : UInt64) : UInt64 :=
  let word := (word ^^^ (word >>> 30)) * 0xBF58476D1CE4E5B9
  let word := (word ^^^ (word >>> 27)) * 0x94D049BB133111EB
  word ^^^ (word >>> 31)

def stride : UInt64 := 0x9E3779B97F4A7C15

/-- The luck that a seed stands for; seeds in a row give luck that looks unrelated. -/
def Luck.ofSeed (seed : UInt64) : Luck where
  roll := Fin.ofNat 0x20000000000000 (scramble (seed * stride) >>> 11).toNat
  picks number := (scramble (scramble (seed * stride) + UInt64.ofNat (number + 1) * stride)).toNat

end AutoReply.Rule
