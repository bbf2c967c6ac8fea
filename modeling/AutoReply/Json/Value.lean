import AutoReply.Json.Reader

/-!
Readers for values of known kinds: texts, numbers, lists, maps, and values that do not matter.
-/

namespace AutoReply.Json.Reader

open AutoReply.Number AutoReply.Text

variable {α κ : Type}

/-- Fails because a value is of another kind than `expected`; the value itself must be sound. -/
def wrongKind (expected : String) : Reader α := placed do
  let found := fun kind : String => (failUnplaced (.wrongType kind expected) : Reader α)
  match ← peek with
  | some (some 'n') => drop; word "ull".toList; found "null"
  | some (some 't') => drop; word "rue".toList; found "boolean `true`"
  | some (some 'f') => drop; word "alse".toList; found "boolean `false`"
  | some (some '"') =>
      drop
      let string ← textBody
      found ("string " ++ quoted string)
  | some (some '[') => found "sequence"
  | some (some '\x7b') => found "map"
  | symbol =>
      if symbol == some (some '-') || symbol.any isDigit then
        match ← numeral with
        | .integer value => found ("integer `" ++ String.ofList (integerText value) ++ "`")
        | .real value => found ("floating point `" ++ String.ofList value.compact ++ "`")
      else failWithin .valueExpected

def valueStart : Reader Symbol := do
  match ← next with
  | some symbol => return symbol
  | none => fail .endInValue

def text : Reader String := placed do
  if (← valueStart) == some '"' then
    drop
    textBody
  else wrongKind "a string"

def bool : Reader Bool := placed do
  match ← valueStart with
  | some 't' => drop; word "rue".toList; return true
  | some 'f' => drop; word "alse".toList; return false
  | _ => wrongKind "a boolean"

/-- A whole number from zero up to below `limit`; `expected` names the kind. -/
def checkedNatural (limit : Nat) (expected : String) : Numeral → Except Cause Nat
  | .integer value =>
      if 0 ≤ value ∧ value < limit then .ok value.toNat
      else .error (.wrongValue ("integer `" ++ String.ofList (integerText value) ++ "`") expected)
  | .real value =>
      .error (.wrongType ("floating point `" ++ String.ofList value.compact ++ "`") expected)

def natural (limit : Nat) (expected : String) : Reader Nat := placed do
  let symbol ← valueStart
  if symbol == some '-' || isDigit symbol then
    liftExcept (checkedNatural limit expected (← numeral))
  else wrongKind expected

def word64 : Reader UInt64 := do
  return UInt64.ofNat (← natural wordCount "u64")

def word32 : Reader UInt32 := do
  return UInt32.ofNat (← natural 0x100000000 "u32")

def optional (reader : Reader α) : Reader (Option α) := do
  match ← next with
  | some (some 'n') => drop; word "ull".toList; return none
  | _ => return some (← reader)

def hasItem (first : Bool) : Reader Bool := do
  match ← next with
  | none => fail .endInList
  | some (some ']') => return false
  | some symbol =>
      if first then return true
      else if symbol == some ',' then
        drop
        match ← next with
        | some (some ']') => failWithin .trailingComma
        | some _ => return true
        | none => fail .endInValue
      else failWithin .listCommaOrEndExpected

def hasMember (first : Bool) : Reader Bool := do
  match ← next with
  | none => fail .endInObject
  | some (some '\x7d') => return false
  | some symbol =>
      if first then
        if symbol == some '"' then return true else failWithin .keyMustBeString
      else if symbol == some ',' then
        drop
        match ← next with
        | some (some '"') => return true
        | some (some '\x7d') => failWithin .trailingComma
        | some _ => failWithin .keyMustBeString
        | none => fail .endInValue
      else failWithin .objectCommaOrEndExpected

def colon : Reader Unit := do
  match ← next with
  | some (some ':') => drop
  | some _ => failWithin .colonExpected
  | none => fail .endInObject

def endList : Reader Unit := do
  match ← next with
  | some (some ']') => drop
  | some (some ',') =>
      drop
      if (← next) == some (some ']') then failWithin .trailingComma
      else failWithin .trailingCharacters
  | some _ => failWithin .trailingCharacters
  | none => fail .endInList

def endObject : Reader Unit := do
  match ← next with
  | some (some '\x7d') => drop
  | some (some ',') => failWithin .trailingComma
  | some _ => failWithin .trailingCharacters
  | none => fail .endInObject

/-- Reads what stands between brackets, then the closing one. After a fault inside, the closing
bracket is still taken if it is there; a fault without a place is placed behind it. -/
def enclosed (inside : Reader α) (close : Reader Unit) : Reader α := fun start =>
  match inside start with
  | .done value rest => (do close; return value : Reader α) rest
  | .failed fault rest =>
      match close rest with
      | .done _ rest => .failed fault rest
      | .failed _ rest => .failed fault rest

def itemsFrom (item : Reader α) : Nat → Bool → Reader (List α)
  | 0, _ => return []
  | fuel + 1, first => do
      if ← hasItem first then
        let value ← item
        let values ← itemsFrom item fuel false
        return value :: values
      else return []

def list (item : Reader α) : Reader (List α) := placed do
  if (← valueStart) == some '[' then
    drop
    let behind ← rest
    enclosed (itemsFrom item (behind.length + 1) true) endList
  else wrongKind "a sequence"

def membersFrom (key : Reader κ) (value : Reader α) : Nat → Bool → Reader (List (κ × α))
  | 0, _ => return []
  | fuel + 1, first => do
      if ← hasMember first then
        let name ← key
        colon
        let read ← value
        let others ← membersFrom key value fuel false
        return (name, read) :: others
      else return []

def object (key : Reader κ) (value : Reader α) : Reader (List (κ × α)) := placed do
  if (← valueStart) == some '\x7b' then
    drop
    let behind ← rest
    enclosed (membersFrom key value (behind.length + 1) true) endObject
  else wrongKind "a map"

def key : Reader String := do
  drop
  textBody

/-- A number as the name of a member; it is written without escapes. -/
def numericKey : Reader UInt64 := do
  drop
  let symbol ← peek
  if symbol == some (some '-') || symbol.any isDigit then
    let value ← word64
    match ← peek with
    | some (some '"') => drop; return value
    | _ => failWithin .quoteExpected
  else fail .numericKeyExpected

/-- Passes over a text behind its opening quotation mark; only its escapes are looked at. -/
def dropText : Nat → Reader Unit
  | 0 => fail .endInString
  | fuel + 1 => do
      match ← peek with
      | none => fail .endInString
      | some (some '"') => drop
      | some (some '\\') =>
          drop
          match ← peek with
          | none => fail .endInString
          | some none => failWithin .invalidEscape
          | some (some letter) =>
              if letter = 'u' then
                drop
                let _ ← hexEscape
                dropText fuel
              else if (shortUnescape? letter).isSome then
                drop
                dropText fuel
              else failWithin .invalidEscape
      | some symbol =>
          if symbol.any fun character => character.toNat < 0x20 then
            fail .controlCharacterInString
          else
            drop
            dropText fuel

def dropNumber : Reader Unit := do
  let whole ← digits
  match whole with
  | [] => failWithin .invalidNumber
  | '0' :: second :: _ =>
      let behind ← rest
      leave ((second :: whole.drop 2).map some ++ behind)
      failWithin .invalidNumber
  | _ =>
      if (← peek) == some (some '.') then
        drop
        if (← digits).isEmpty then failWithin .invalidNumber
      let mark ← peek
      if mark == some (some 'e') || mark == some (some 'E') then
        drop
        let _ ← sign
        if (← digits).isEmpty then failWithin .invalidNumber

/-- Passes over a value that is not a list or object; for those, passes over the bracket and tells
whether it opens a list. -/
def dropScalar : Reader (Option Bool) := do
  match ← valueStart with
  | some 'n' => drop; word "ull".toList; return none
  | some 't' => drop; word "rue".toList; return none
  | some 'f' => drop; word "alse".toList; return none
  | some '"' => drop; dropText ((← rest).length + 1); return none
  | some '[' => drop; return some true
  | some '\x7b' => drop; return some false
  | some '-' => drop; dropNumber; return none
  | symbol =>
      if isDigit symbol then
        dropNumber
        return none
      else failWithin .valueExpected

def dropKey : Reader Unit := do
  match ← next with
  | some (some '"') => drop
  | some _ => failWithin .keyMustBeString
  | none => fail .endInObject
  dropText ((← rest).length + 1)
  match ← next with
  | some (some ':') => drop
  | some _ => failWithin .colonExpected
  | none => fail .endInObject

mutual

/-- Passes over one value; `brackets` tells of each bracket that is open whether it opens a list. -/
def dropValue : Nat → List Bool → Reader Unit
  | 0, _ => fail .endInValue
  | fuel + 1, brackets => do
      match ← dropScalar with
      | some isList => dropBehind fuel (isList :: brackets) false
      | none => dropBehind fuel brackets true

/-- Goes on behind a value or, with `comma` false, behind an opening bracket. -/
def dropBehind : Nat → List Bool → Bool → Reader Unit
  | 0, _, _ => fail .endInValue
  | _, [], _ => return ()
  | fuel + 1, isList :: brackets, comma => do
      let closing := if isList then ']' else '\x7d'
      match ← next with
      | none => fail (if isList then .endInList else .endInObject)
      | some symbol =>
          if symbol == some closing then
            drop
            dropBehind fuel brackets true
          else
            if comma then
              if symbol == some ',' then drop
              else if isList then failWithin .listCommaOrEndExpected
              else failWithin .objectCommaOrEndExpected
            if !isList then dropKey
            dropValue fuel (isList :: brackets)

end

def ignored : Reader Unit := do
  dropValue (2 * (← rest).length + 2) []

def whole (reader : Reader α) (content : List Symbol) : Except Fault α :=
  match (do
      let value ← reader
      match ← next with
      | some _ => failWithin .trailingCharacters
      | none => return value : Reader α) content with
  | .done value _ => .ok value
  | .failed fault _ => .error fault

end AutoReply.Json.Reader
