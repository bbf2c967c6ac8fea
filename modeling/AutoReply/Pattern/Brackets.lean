import AutoReply.Pattern.Escape

/-!
Sets of characters in brackets: letters, ranges, classes and nested brackets, which operators
combine from left to right.
-/

namespace AutoReply.Pattern.Brackets

open AutoReply.Text AutoReply.Pattern.Escape

inductive Operator
  | both | except | either

def Operator.apply (flags : Flags) (operator : Operator) (left right : CharSet) : CharSet :=
  match operator with
  | both => .both (flags.fold left) (flags.fold right)
  | except => .except (flags.fold left) (flags.fold right)
  | either => .either (flags.fold left) (flags.fold right)

/-- A set and how deeply its parts are nested. -/
structure Deep where
  set : CharSet
  depth : Nat

/-- The members read since the last operator; the last one comes first. -/
abbrev Members := List Deep

def deepest (depths : List Nat) : Nat :=
  depths.foldl max 0

def unite (members : Members) : Deep :=
  match members with
  | [] => ⟨.none, 0⟩
  | [member] => member
  | _ =>
      ⟨members.foldr (fun member set => .union set member.set) .none,
        deepest (members.map Deep.depth) + 1⟩

abbrev Pending := Option (Deep × Operator)

def settle (flags : Flags) (pending : Pending) (members : Members) : Deep :=
  let right := unite members
  match pending with
  | none => right
  | some (left, operator) =>
      ⟨operator.apply flags left.set right.set, max left.depth right.depth + 1⟩

def asciiClass? (text : List Char) : Option (CharSet × List Char) :=
  match text with
  | ':' :: rest =>
      let (negated, rest) := match rest with
        | '^' :: rest => (true, rest)
        | _ => (false, rest)
      let name := rest.takeWhile (· != ':')
      match afterStart [':', ']'] (rest.drop name.length) with
      | some rest => (CharSet.named? name).map fun set => (set.negatedIf negated, rest)
      | none => none
  | _ => none

def rangeFollows (flags : Flags) (text : List Char) : Option (List Char) :=
  match text with
  | '-' :: rest =>
      match gap flags rest with
      | ']' :: _ => none
      | '-' :: _ => none
      | rest => some rest
  | _ => none

def primitive? (flags : Flags) (text : List Char) : Option (Primitive × List Char) :=
  match text with
  | [] => none
  | '\\' :: rest => Escape.read? flags rest
  | character :: rest => some (.letter ⟨character, false⟩, rest)

def member? (flags : Flags) (text : List Char) : Option (CharSet × List Char) := do
  let (first, rest) ← primitive? flags text
  let rest := gap flags rest
  match rangeFollows flags rest with
  | some rest =>
      if rest.isEmpty then none
      else
        let (last, rest) ← primitive? flags rest
        match first, last with
        | .letter first, .letter last =>
            let first ← flags.memberPoint? first
            let last ← flags.memberPoint? last
            if first ≤ last then some (.between first last, rest) else none
        | _, _ => none
  | none =>
      match first with
      | .letter letter => (flags.memberPoint? letter).map fun point => (.single point, rest)
      | .set set => some (set, rest)
      | .check _ => none

def hyphen : Deep := ⟨.single '-', 0⟩

/-- Hyphens at the start of a set stand for themselves; `fuel` bounds their number. -/
def leadingHyphens (flags : Flags) : Nat → Members → List Char → Members × List Char
  | fuel + 1, members, '-' :: rest =>
      leadingHyphens flags fuel (hyphen :: members) (gap flags rest)
  | _, members, rest => (members, rest)

/-- The start of a set behind its bracket: a negation, then hyphens or else a closing bracket that
stand for themselves. -/
def opening (flags : Flags) (text : List Char) : Bool × Members × List Char :=
  let text := gap flags text
  let (negated, text) := match text with
    | '^' :: rest => (true, gap flags rest)
    | _ => (false, text)
  match leadingHyphens flags text.length [] text with
  | ([], ']' :: rest) => (negated, [⟨.single ']', 0⟩], gap flags rest)
  | (members, rest) => (negated, members, rest)

def read? (flags : Flags) (negated : Bool) :
    Nat → Pending → Members → List Char → Option (Deep × List Char)
  | 0, _, _, _ => none
  | fuel + 1, pending, members, text =>
      match gap flags text with
      | [] => none
      | ']' :: rest => do
          let whole := settle flags pending members
          let set ← flags.checked ((flags.fold whole.set).negatedIf negated)
          some (⟨set, whole.depth + 1⟩, rest)
      | '&' :: '&' :: rest =>
          read? flags negated fuel (some (settle flags pending members, .both)) [] rest
      | '-' :: '-' :: rest =>
          read? flags negated fuel (some (settle flags pending members, .except)) [] rest
      | '~' :: '~' :: rest =>
          read? flags negated fuel (some (settle flags pending members, .either)) [] rest
      | '[' :: rest =>
          match asciiClass? rest with
          | some (set, rest) => read? flags negated fuel pending (⟨set, 0⟩ :: members) rest
          | none => do
              let (innerNegated, innerMembers, rest) := opening flags rest
              let (inner, rest) ← read? flags innerNegated fuel none innerMembers rest
              read? flags negated fuel pending (inner :: members) rest
      | text => do
          let (set, rest) ← member? flags text
          read? flags negated fuel pending (⟨set, 0⟩ :: members) rest

def set? (flags : Flags) (text : List Char) : Option (Deep × List Char) :=
  let (negated, members, rest) := opening flags text
  (read? flags negated (rest.length + 1) none members rest).map fun (deep, rest) =>
    (⟨flags.confined deep.set, deep.depth⟩, rest)

end AutoReply.Pattern.Brackets
