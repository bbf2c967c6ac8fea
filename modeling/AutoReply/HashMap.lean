import AutoReply.SortedMap

/-!
Maps without an order of their own: the list of their entries as one walk over them finds it. Another
walk over a map with the same entries may find them in any other order.
-/

namespace AutoReply

variable {κ α : Type}

structure HashMap (κ α : Type) where
  entries : List (κ × α)
  nodup : (entries.map Prod.fst).Nodup

namespace HashMap

variable [DecidableEq κ]

def put (key : κ) (value : α) : List (κ × α) → List (κ × α)
  | [] => [(key, value)]
  | entry :: rest =>
      if entry.1 = key then (key, value) :: rest else entry :: put key value rest

theorem keys_put (key : κ) (value : α) (entries : List (κ × α)) :
    (put key value entries).map Prod.fst =
      if key ∈ entries.map Prod.fst then entries.map Prod.fst
      else entries.map Prod.fst ++ [key] := by
  induction entries with
  | nil => rfl
  | cons entry rest ih =>
      rw [put]
      by_cases same : entry.1 = key
      · simp [same]
      · simp only [same, if_false, List.map_cons, ih, List.mem_cons, Ne.symm same, false_or]
        split <;> rfl

theorem nodup_put {key : κ} {value : α} {entries : List (κ × α)}
    (nodup : (entries.map Prod.fst).Nodup) : ((put key value entries).map Prod.fst).Nodup := by
  rw [keys_put]
  split
  next => exact nodup
  next absent =>
    refine List.nodup_append.mpr ⟨nodup, by simp, ?_⟩
    intro other member last isLast same
    rw [same, List.mem_singleton.mp isLast] at member
    exact absent member

def empty : HashMap κ α :=
  ⟨[], List.nodup_nil⟩

def insert (key : κ) (value : α) (map : HashMap κ α) : HashMap κ α :=
  ⟨put key value map.entries, nodup_put map.nodup⟩

def ofList (entries : List (κ × α)) : HashMap κ α :=
  entries.foldl (fun map entry => map.insert entry.1 entry.2) empty

def lookup (key : κ) (map : HashMap κ α) : Option α :=
  map.entries.lookup key

def keys (map : HashMap κ α) : List κ :=
  map.entries.map Prod.fst

end HashMap

/-- The same entries in a map without an order. -/
def SortedMap.toHashMap [Ord κ] [DecidableEq κ] (map : SortedMap κ α) : HashMap κ α :=
  .ofList map.entries

end AutoReply
