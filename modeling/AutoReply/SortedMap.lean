/-!
Finite maps as lists of entries in ascending order of their keys. Two maps with the same entries are
equal.
-/

namespace AutoReply

variable {κ α β : Type}

def Ascending [Ord κ] (entries : List (κ × α)) : Prop :=
  entries.Pairwise fun earlier later => compare earlier.1 later.1 = .lt

structure SortedMap (κ α : Type) [Ord κ] where
  entries : List (κ × α)
  ascending : Ascending entries

namespace SortedMap

variable [Ord κ]

def insertEntry (key : κ) (value : α) : List (κ × α) → List (κ × α)
  | [] => [(key, value)]
  | entry :: rest =>
      match compare key entry.1 with
      | .lt => (key, value) :: entry :: rest
      | .eq => (key, value) :: rest
      | .gt => entry :: insertEntry key value rest

theorem mem_insertEntry {key : κ} {value : α} {entries : List (κ × α)} {other : κ × α} :
    other ∈ insertEntry key value entries → other = (key, value) ∨ other ∈ entries := by
  induction entries with
  | nil => simp [insertEntry]
  | cons entry rest hypothesis =>
      simp only [insertEntry]
      split <;> grind

theorem ascending_insertEntry [Std.TransOrd κ] [Std.LawfulEqOrd κ] (key : κ) (value : α)
    {entries : List (κ × α)} (sorted : Ascending entries) :
    Ascending (insertEntry key value entries) := by
  induction entries with
  | nil => simp [insertEntry, Ascending]
  | cons entry rest hypothesis =>
      have headed := List.pairwise_cons.1 sorted
      simp only [insertEntry]
      split
      next below =>
        refine List.pairwise_cons.2 ⟨fun other member => ?_, sorted⟩
        rcases List.mem_cons.1 member with same | member
        · simpa [same] using below
        · exact Std.TransCmp.lt_trans below (headed.1 other member)
      next same =>
        have equal := Std.LawfulEqOrd.eq_of_compare same
        exact List.pairwise_cons.2 ⟨fun other member => equal ▸ headed.1 other member, headed.2⟩
      next above =>
        refine List.pairwise_cons.2 ⟨fun other member => ?_, hypothesis headed.2⟩
        rcases mem_insertEntry member with same | member
        · simpa [same] using Std.OrientedCmp.gt_iff_lt.1 above
        · exact headed.1 other member

def empty : SortedMap κ α :=
  ⟨[], List.Pairwise.nil⟩

instance : Inhabited (SortedMap κ α) := ⟨empty⟩

def lookup [DecidableEq κ] (key : κ) (map : SortedMap κ α) : Option α :=
  map.entries.lookup key

def insert [Std.TransOrd κ] [Std.LawfulEqOrd κ] (key : κ) (value : α) (map : SortedMap κ α) :
    SortedMap κ α :=
  ⟨insertEntry key value map.entries, ascending_insertEntry key value map.ascending⟩

def ofList [Std.TransOrd κ] [Std.LawfulEqOrd κ] (entries : List (κ × α)) : SortedMap κ α :=
  entries.foldl (fun map entry => map.insert entry.1 entry.2) empty

def keys (map : SortedMap κ α) : List κ :=
  map.entries.map Prod.fst

def size (map : SortedMap κ α) : Nat :=
  map.entries.length

def mapValues (change : α → β) (map : SortedMap κ α) : SortedMap κ β :=
  ⟨map.entries.map fun entry => (entry.1, change entry.2), by
    simpa [Ascending, List.pairwise_map] using map.ascending⟩

end SortedMap

end AutoReply
