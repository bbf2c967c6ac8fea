import AutoReply.HashMap
import AutoReply.Proofs.SortedMap

/-!
Maps without an order, seen through look-up.
-/

namespace AutoReply

variable {κ α : Type} [DecidableEq κ]

namespace HashMap

variable {map : HashMap κ α} {entries : List (κ × α)}

theorem mem_entries_iff {key : κ} {value : α} :
    (key, value) ∈ map.entries ↔ map.lookup key = some value := by
  refine ⟨SortedMap.lookup_eq_some_of_nodup map.nodup, fun found => ?_⟩
  obtain ⟨before, after, same, _⟩ := List.lookup_eq_some_iff.mp found
  simp [same]

theorem lookup_eq_none_iff {key : κ} : map.lookup key = none ↔ key ∉ map.keys := by
  rw [← Option.not_isSome_iff_eq_none, Option.isSome_iff_exists]
  simp [keys, ← mem_entries_iff]

theorem lookup_put (key other : κ) (value : α) (entries : List (κ × α)) :
    (put key value entries).lookup other =
      if other = key then some value else entries.lookup other := by
  induction entries with
  | nil => simp [put, SortedMap.lookup_cons_eq]
  | cons entry rest ih =>
      rw [put]
      by_cases here : entry.1 = key
      · simp only [here, if_true, SortedMap.lookup_cons_eq]
        split <;> rfl
      · simp only [here, if_false, SortedMap.lookup_cons_eq, ih]
        by_cases same : other = entry.1
        · simp [same, here]
        · simp [same]

theorem lookup_foldl_insert (entries : List (κ × α)) (map : HashMap κ α) (key : κ) :
    (entries.foldl (fun map entry => map.insert entry.1 entry.2) map).lookup key =
      (entries.reverse.lookup key).or (map.lookup key) := by
  induction entries generalizing map with
  | nil => simp
  | cons entry rest ih =>
      have inserted : (map.insert entry.1 entry.2).lookup key =
          if key = entry.1 then some entry.2 else map.lookup key :=
        lookup_put entry.1 key entry.2 map.entries
      simp only [List.foldl_cons, ih, inserted, List.reverse_cons, List.lookup_append]
      by_cases same : key = entry.1
      · simp [SortedMap.lookup_cons_eq, same]
      · simp [SortedMap.lookup_cons_eq, same]

theorem lookup_ofList (entries : List (κ × α)) (key : κ) :
    (ofList entries).lookup key = entries.reverse.lookup key := by
  rw [ofList, lookup_foldl_insert]
  exact Option.or_none

theorem put_of_absent {key : κ} (value : α) (absent : key ∉ entries.map Prod.fst) :
    put key value entries = entries ++ [(key, value)] := by
  induction entries with
  | nil => rfl
  | cons entry rest ih =>
      rw [List.map_cons, List.mem_cons, not_or] at absent
      rw [put, if_neg (Ne.symm absent.1), ih absent.2, List.cons_append]

theorem entries_foldl_insert (entries : List (κ × α)) (map : HashMap κ α)
    (nodup : ((map.entries ++ entries).map Prod.fst).Nodup) :
    (entries.foldl (fun map entry => map.insert entry.1 entry.2) map).entries =
      map.entries ++ entries := by
  induction entries generalizing map with
  | nil => simp
  | cons entry entries ih =>
      have absent : entry.1 ∉ map.entries.map Prod.fst := by
        rw [List.map_append, List.map_cons, List.nodup_append] at nodup
        exact fun member => nodup.2.2 entry.1 member entry.1 List.mem_cons_self rfl
      have inserted : (map.insert entry.1 entry.2).entries = map.entries ++ [entry] :=
        put_of_absent entry.2 absent
      rw [List.foldl_cons, ih, inserted, List.append_assoc, List.singleton_append]
      rwa [inserted, List.append_assoc, List.singleton_append]

theorem entries_ofList (nodup : (entries.map Prod.fst).Nodup) :
    (ofList entries).entries = entries :=
  entries_foldl_insert entries empty nodup

theorem mem_keys_ofList {key : κ} (member : key ∈ (ofList entries).keys) :
    key ∈ entries.map Prod.fst := by
  obtain ⟨⟨other, value⟩, listed, rfl⟩ := List.mem_map.mp member
  rw [mem_entries_iff, lookup_ofList] at listed
  obtain ⟨before, after, split, _⟩ := List.lookup_eq_some_iff.mp listed
  have inside : (other, value) ∈ entries.reverse := by simp [split]
  exact List.mem_map_of_mem (List.mem_reverse.mp inside)

end HashMap

namespace SortedMap

variable [Ord κ] [Std.TransOrd κ] (map : SortedMap κ α)

theorem entries_toHashMap : map.toHashMap.entries = map.entries :=
  HashMap.entries_ofList map.nodup_keys

theorem keys_toHashMap : map.toHashMap.keys = map.keys := by
  rw [HashMap.keys, entries_toHashMap, keys]

theorem lookup_toHashMap (key : κ) : map.toHashMap.lookup key = map.lookup key := by
  rw [HashMap.lookup, entries_toHashMap, lookup]

end SortedMap

end AutoReply
