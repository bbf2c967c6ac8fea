import AutoReply.SortedMap

/-!
Maps seen through look-up: an insertion changes what one key holds, and a map made from a list holds
the last entry of every key.
-/

namespace AutoReply.SortedMap

variable {κ α : Type} [DecidableEq κ]

theorem lookup_cons_eq (key : κ) (entry : κ × α) (rest : List (κ × α)) :
    (entry :: rest).lookup key = if key = entry.1 then some entry.2 else rest.lookup key := by
  rw [List.lookup_cons]
  by_cases same : key = entry.1
  · simp [same]
  · simp [same, beq_eq_false_iff_ne.mpr same]

theorem lookup_eq_some_of_nodup {entries : List (κ × α)} {key : κ} {value : α}
    (unique : (entries.map Prod.fst).Nodup) (member : (key, value) ∈ entries) :
    entries.lookup key = some value := by
  induction entries with
  | nil => simp at member
  | cons entry rest ih =>
      rw [List.map_cons, List.nodup_cons] at unique
      rcases List.mem_cons.mp member with same | later
      · simp [← same]
      · have different : key ≠ entry.1 := by
          intro same
          exact unique.1 (same ▸ List.mem_map.mpr ⟨(key, value), later, rfl⟩)
        simpa [lookup_cons_eq, different] using ih unique.2 later

theorem lookup_map {β : Type} (change : α → β) (entries : List (κ × α)) (key : κ) :
    (entries.map fun entry => (entry.1, change entry.2)).lookup key =
      (entries.lookup key).map change := by
  induction entries with
  | nil => rfl
  | cons entry rest ih =>
      rw [List.map_cons, lookup_cons_eq, lookup_cons_eq, ih]
      by_cases same : key = entry.1
      · rw [if_pos same, if_pos same, Option.map_some]
      · rw [if_neg same, if_neg same]

variable [Ord κ]

@[simp] theorem lookup_empty (key : κ) : (empty : SortedMap κ α).lookup key = none := rfl

variable [Std.LawfulEqOrd κ]

theorem lookup_insertEntry (key other : κ) (value : α) (entries : List (κ × α)) :
    (insertEntry key value entries).lookup other =
      if other = key then some value else entries.lookup other := by
  induction entries with
  | nil => simp [insertEntry, lookup_cons_eq]
  | cons entry rest ih =>
      simp only [insertEntry]
      split
      next below => rw [lookup_cons_eq]
      next equal =>
        have sameKey : key = entry.1 := Std.LawfulEqOrd.eq_of_compare equal
        by_cases same : other = key
        · simp [lookup_cons_eq, same]
        · simp [lookup_cons_eq, same, ← sameKey]
      next above =>
        have different : key ≠ entry.1 := by
          intro equal
          simp [equal, Std.ReflCmp.compare_self] at above
        rw [lookup_cons_eq, ih, lookup_cons_eq]
        by_cases head : other = entry.1
        · simp [head, Ne.symm different]
        · simp [head]

variable [Std.TransOrd κ]

theorem lookup_insert (key other : κ) (value : α) (map : SortedMap κ α) :
    (map.insert key value).lookup other = if other = key then some value else map.lookup other :=
  lookup_insertEntry key other value map.entries

theorem lookup_foldl_insert (entries : List (κ × α)) (map : SortedMap κ α) (key : κ) :
    (entries.foldl (fun map entry => map.insert entry.1 entry.2) map).lookup key =
      (entries.reverse.lookup key).or (map.lookup key) := by
  induction entries generalizing map with
  | nil => simp
  | cons entry rest ih =>
      simp only [List.foldl_cons, ih, lookup_insert, List.reverse_cons, List.lookup_append]
      by_cases same : key = entry.1
      · simp [lookup_cons_eq, same]
      · simp [lookup_cons_eq, same]

theorem lookup_ofList (entries : List (κ × α)) (key : κ) :
    (ofList entries).lookup key = entries.reverse.lookup key := by
  simp [ofList, lookup_foldl_insert]

theorem lookup_ofList_of_mem {entries : List (κ × α)} {key : κ} {value : α}
    (unique : (entries.map Prod.fst).Nodup) (member : (key, value) ∈ entries) :
    (ofList entries).lookup key = some value := by
  rw [lookup_ofList]
  apply lookup_eq_some_of_nodup
  · rw [List.map_reverse]
    exact List.pairwise_reverse.mpr (unique.imp Ne.symm)
  · exact List.mem_reverse.mpr member

theorem lookup_ofList_of_nodup {entries : List (κ × α)} (unique : (entries.map Prod.fst).Nodup)
    (key : κ) : (ofList entries).lookup key = entries.lookup key := by
  cases found : entries.lookup key with
  | none =>
      rw [lookup_ofList, List.lookup_eq_none_iff]
      exact fun entry inside => List.lookup_eq_none_iff.mp found entry (List.mem_reverse.mp inside)
  | some value =>
      obtain ⟨before, after, rfl, _⟩ := List.lookup_eq_some_iff.mp found
      exact lookup_ofList_of_mem unique (by simp)

omit [DecidableEq κ]

omit [Std.LawfulEqOrd κ] in
theorem ne_of_below {key other : κ} (below : compare key other = .lt) : key ≠ other := by
  rintro rfl
  have equal : compare key key = .eq := Std.ReflCmp.compare_self
  rw [equal] at below
  contradiction

omit [Std.LawfulEqOrd κ] in
theorem nodup_keys (map : SortedMap κ α) : map.keys.Nodup := by
  rw [keys, List.Nodup, List.pairwise_map]
  exact map.ascending.imp ne_of_below

omit [Std.LawfulEqOrd κ] [Std.TransOrd κ] in
theorem keys_insertEntry (key : κ) (value : α) (entries : List (κ × α)) {other : κ}
    (member : other ∈ (insertEntry key value entries).map Prod.fst) :
    other = key ∨ other ∈ entries.map Prod.fst := by
  obtain ⟨entry, inside, same⟩ := List.mem_map.mp member
  rcases mem_insertEntry inside with inserted | old
  · exact Or.inl (by rw [← same, inserted])
  · exact Or.inr (List.mem_map.mpr ⟨entry, old, same⟩)

theorem mem_keys_foldl_insert (entries : List (κ × α)) (map : SortedMap κ α) {key : κ}
    (member : key ∈ (entries.foldl (fun map entry => map.insert entry.1 entry.2) map).keys) :
    key ∈ entries.map Prod.fst ∨ key ∈ map.keys := by
  induction entries generalizing map with
  | nil => exact Or.inr member
  | cons entry rest ih =>
      rcases ih (map.insert entry.1 entry.2) member with later | inserted
      · exact Or.inl (List.mem_cons_of_mem _ later)
      · rcases keys_insertEntry entry.1 entry.2 map.entries inserted with same | old
        · exact Or.inl (by simp [same])
        · exact Or.inr old

theorem mem_keys_ofList {entries : List (κ × α)} {key : κ} (member : key ∈ (ofList entries).keys) :
    key ∈ entries.map Prod.fst := by
  rcases mem_keys_foldl_insert entries empty member with listed | old
  · exact listed
  · simp [empty, keys] at old

omit [Std.LawfulEqOrd κ] [Std.TransOrd κ] in
theorem ext_entries {map other : SortedMap κ α} (same : map.entries = other.entries) :
    map = other := by
  cases map
  cases other
  cases same
  rfl

omit [Std.LawfulEqOrd κ] in
theorem insertEntry_last (key : κ) (value : α) {entries : List (κ × α)}
    (above : ∀ entry ∈ entries, compare entry.1 key = .lt) :
    insertEntry key value entries = entries ++ [(key, value)] := by
  induction entries with
  | nil => rfl
  | cons entry rest ih =>
      have greater : compare key entry.1 = .gt :=
        Std.OrientedCmp.gt_iff_lt.mpr (above entry List.mem_cons_self)
      rw [insertEntry, greater]
      dsimp only
      rw [ih fun other member => above other (List.mem_cons_of_mem _ member), List.cons_append]

theorem entries_foldl_insert (entries : List (κ × α)) (map : SortedMap κ α)
    (ascending : Ascending (map.entries ++ entries)) :
    (entries.foldl (fun map entry => map.insert entry.1 entry.2) map).entries =
      map.entries ++ entries := by
  induction entries generalizing map with
  | nil => simp
  | cons entry entries ih =>
      have inserted : (map.insert entry.1 entry.2).entries = map.entries ++ [entry] :=
        insertEntry_last entry.1 entry.2 fun other member =>
          (List.pairwise_append.mp ascending).2.2 other member entry List.mem_cons_self
      rw [List.foldl_cons, ih, inserted, List.append_assoc, List.singleton_append]
      rwa [inserted, List.append_assoc, List.singleton_append]

/-- The entries of a map make the same map again. -/
theorem ofList_entries (map : SortedMap κ α) : ofList map.entries = map :=
  ext_entries (entries_foldl_insert map.entries empty map.ascending)

omit [Std.LawfulEqOrd κ] in
theorem mem_entries_iff [DecidableEq κ] {map : SortedMap κ α} {key : κ} {value : α} :
    (key, value) ∈ map.entries ↔ map.lookup key = some value := by
  refine ⟨lookup_eq_some_of_nodup map.nodup_keys, fun found => ?_⟩
  obtain ⟨before, after, same, _⟩ := List.lookup_eq_some_iff.mp found
  simp [same]

omit [Std.LawfulEqOrd κ] in
theorem mem_keys_iff [DecidableEq κ] {map : SortedMap κ α} {key : κ} :
    key ∈ map.keys ↔ ∃ value, map.lookup key = some value := by
  simp [keys, ← mem_entries_iff]

omit [Std.LawfulEqOrd κ] in
/-- Two maps are the same if they hold the same at every key. -/
theorem ext_lookup [DecidableEq κ] {map other : SortedMap κ α}
    (same : ∀ key, map.lookup key = other.lookup key) : map = other := by
  have unique (map : SortedMap κ α) : map.entries.Nodup :=
    map.ascending.imp fun below equal => ne_of_below below (congrArg Prod.fst equal)
  have members : ∀ entry, entry ∈ map.entries ↔ entry ∈ other.entries := by
    rintro ⟨key, value⟩
    rw [mem_entries_iff, mem_entries_iff, same]
  refine ext_entries (List.Perm.eq_of_pairwise ?_ map.ascending other.ascending
    ((List.perm_ext_iff_of_nodup (unique map) (unique other)).mpr members))
  intro earlier later _ _ below above
  exact absurd above (Std.OrientedCmp.not_lt_of_lt below)

end AutoReply.SortedMap
