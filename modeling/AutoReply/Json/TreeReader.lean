import AutoReply.Json.Value

/-!
Reading a JSON value of any kind.
-/

namespace AutoReply.Json.Reader

mutual

/-- Reads a value; `levels` bounds how deeply lists and objects may be nested. -/
def treeWithin : Nat → Nat → Reader Json
  | 0, _ => fail .endInValue
  | fuel + 1, levels => placed do
      match ← valueStart with
      | some 'n' => drop; word "ull".toList; return .null
      | some 't' => drop; word "rue".toList; return .bool true
      | some 'f' => drop; word "alse".toList; return .bool false
      | some '"' =>
          drop
          return .text (← textBody)
      | some '[' =>
          if levels ≤ 1 then failWithin .tooDeep
          else
            drop
            enclosed (do return .list (← treeItems fuel (levels - 1) true)) endList
      | some '\x7b' =>
          if levels ≤ 1 then failWithin .tooDeep
          else
            drop
            enclosed (do return .object (← treeMembers fuel (levels - 1) true)) endObject
      | symbol =>
          if symbol == some '-' || isDigit symbol then return (← numeral).json
          else failWithin .valueExpected

def treeItems : Nat → Nat → Bool → Reader (List Json)
  | 0, _, _ => fail .endInList
  | fuel + 1, levels, first => do
      if ← hasItem first then
        let item ← treeWithin fuel levels
        let items ← treeItems fuel levels false
        return item :: items
      else return []

def treeMembers : Nat → Nat → Bool → Reader (List (String × Json))
  | 0, _, _ => fail .endInObject
  | fuel + 1, levels, first => do
      if ← hasMember first then
        let name ← key
        colon
        let value ← treeWithin fuel levels
        let members ← treeMembers fuel levels false
        return (name, value) :: members
      else return []

end

def maxLevels : Nat := 128

def tree (depth : Nat) : Reader Json := do
  treeWithin (2 * (← rest).length + 2) (maxLevels - depth)

end AutoReply.Json.Reader
