/-!
Texts as they are stored: characters, and bytes that are part of no character.
-/

namespace AutoReply.Text

abbrev Symbol := Option Char

def symbols (text : String) : List Symbol :=
  text.toList.map some

def symbolWidth : Symbol → Nat
  | some character => character.utf8Size
  | none => 1

/-- How many bytes follow a first byte, and the bits that it adds; none for a byte that cannot come
first. -/
def leadByte? (byte : Nat) : Option (Nat × Nat) :=
  if byte < 0x80 then some (0, byte)
  else if 0xC2 ≤ byte ∧ byte < 0xE0 then some (1, byte - 0xC0)
  else if 0xE0 ≤ byte ∧ byte < 0xF0 then some (2, byte - 0xE0)
  else if 0xF0 ≤ byte ∧ byte < 0xF5 then some (3, byte - 0xF0)
  else none

/-- The character that a first byte begins, with the bytes it takes up: all following bytes are
there, and it is written in the shortest way. -/
def decodeFirst? (bytes : List Nat) : Option (Char × Nat) :=
  match bytes with
  | [] => none
  | first :: rest =>
      match leadByte? first with
      | none => none
      | some (count, bits) =>
          let others := rest.take count
          let value := others.foldl (fun value byte => value * 64 + (byte - 0x80)) bits
          if others.length = count && others.all (fun byte => 0x80 ≤ byte && byte < 0xC0) &&
              decide value.isValidChar && (Char.ofNat value).utf8Size == count + 1 then
            some (Char.ofNat value, count)
          else none

def decodeAfter : (skip : Nat) → List Nat → List Symbol
  | _, [] => []
  | skip + 1, _ :: rest => decodeAfter skip rest
  | 0, byte :: rest =>
      match decodeFirst? (byte :: rest) with
      | some (character, count) => some character :: decodeAfter count rest
      | none => none :: decodeAfter 0 rest

def decode (bytes : List UInt8) : List Symbol :=
  decodeAfter 0 (bytes.map UInt8.toNat)

def textOf? (content : List Symbol) : Option String :=
  if content.all Option.isSome then some (String.ofList (content.filterMap id)) else none

end AutoReply.Text
