import AutoReply.Proofs.SortedMap
import AutoReply.Settings.Value

/-!
Values laid over each other, seen through look-up. Where only tables lead to a place, what the
layers put there are laid over each other on their own, so that the last layer that mentions the
place decides.
-/

namespace AutoReply.Settings.Value

/-! Members put into a table. -/

def names {α : Type} (members : List (String × α)) : List String :=
  members.map Prod.fst

theorem lookup_eq_none_of_notMem {α : Type} {name : String} {members : List (String × α)}
    (absent : name ∉ names members) : members.lookup name = none := by
  rw [List.lookup_eq_none_iff]
  intro member inside
  rw [bne_iff_ne]
  rintro rfl
  exact absent (List.mem_map_of_mem inside)

section

variable {α : Type} (name : String) (value : α)

theorem lookup_put (other : String) (members : List (String × α)) :
    (put name value members).lookup other =
      if other = name then some value else members.lookup other := by
  induction members with
  | nil => simp [put, SortedMap.lookup_cons_eq]
  | cons member rest ih =>
      rw [put]
      by_cases here : member.1 = name
      · by_cases same : other = name
        · simp [here, same]
        · simp [here, same, SortedMap.lookup_cons_eq]
      · rw [if_neg here, SortedMap.lookup_cons_eq, ih, SortedMap.lookup_cons_eq]
        by_cases same : other = name
        · simp [same, Ne.symm here]
        · simp [same]

theorem mem_put {members : List (String × α)} {member : String × α}
    (inside : member ∈ put name value members) : member = (name, value) ∨ member ∈ members := by
  induction members with
  | nil => simpa [put] using inside
  | cons first rest ih =>
      rw [put] at inside
      split at inside
      · exact (List.mem_cons.mp inside).imp id fun later => List.mem_cons_of_mem _ later
      · rcases List.mem_cons.mp inside with same | later
        · exact Or.inr (same ▸ List.mem_cons_self)
        · exact (ih later).imp id fun old => List.mem_cons_of_mem _ old

theorem nodup_names_put {members : List (String × α)} (distinct : (names members).Nodup) :
    (names (put name value members)).Nodup := by
  induction members with
  | nil => simp [put, names]
  | cons first rest ih =>
      obtain ⟨new, others⟩ := List.nodup_cons.mp distinct
      rw [put]
      by_cases here : first.1 = name
      · rw [if_pos here]
        exact List.nodup_cons.mpr ⟨here ▸ new, others⟩
      · rw [if_neg here]
        refine List.nodup_cons.mpr ⟨?_, ih others⟩
        intro again
        obtain ⟨member, inside, same⟩ := List.mem_map.mp again
        rcases mem_put name value inside with rfl | old
        · exact here same.symm
        · exact new (List.mem_map.mpr ⟨member, old, same⟩)

end

def joined : Option Value → Option Value → Option Value
  | some below, some above => some (overlay below above)
  | below, none => below
  | none, above => above

@[simp] theorem joined_none (below : Option Value) : joined below none = below := by
  cases below <;> rfl

@[simp] theorem none_joined (above : Option Value) : joined none above = above := by
  cases above <;> rfl

theorem overlayMembers_cons (old : List (String × Value)) (name : String) (value : Value)
    (rest : List (String × Value)) :
    ∃ here, joined (old.lookup name) (some value) = some here ∧
      overlayMembers old ((name, value) :: rest) = overlayMembers (put name here old) rest := by
  rw [overlayMembers]
  cases old.lookup name with
  | none => exact ⟨value, rfl, rfl⟩
  | some before => exact ⟨overlay before value, rfl, rfl⟩

theorem lookup_overlayMembers {members : List (String × Value)} (distinct : (names members).Nodup)
    (old : List (String × Value)) (name : String) :
    (overlayMembers old members).lookup name = joined (old.lookup name) (members.lookup name) := by
  induction members generalizing old with
  | nil => simp [overlayMembers]
  | cons member rest ih =>
      obtain ⟨first, value⟩ := member
      obtain ⟨new, others⟩ := List.nodup_cons.mp distinct
      obtain ⟨here, isJoined, same⟩ := overlayMembers_cons old first value rest
      rw [same, ih others, lookup_put, SortedMap.lookup_cons_eq]
      by_cases isFirst : name = first
      · have absent : rest.lookup first = none := lookup_eq_none_of_notMem new
        simp [isFirst, absent, isJoined]
      · simp [isFirst]

theorem nodup_names_overlayMembers (members : List (String × Value)) {old : List (String × Value)}
    (distinct : (names old).Nodup) : (names (overlayMembers old members)).Nodup := by
  induction members generalizing old with
  | nil => exact distinct
  | cons member rest ih =>
      obtain ⟨here, _, same⟩ := overlayMembers_cons old member.1 member.2 rest
      rw [same]
      exact ih (nodup_names_put _ _ distinct)

/-- A value as files and variables write it: nothing is left empty, and the members of each table
have different names. -/
inductive Tidy : Value → Prop
  | flag (value : Bool) : Tidy (.flag value)
  | integer (value : Int) : Tidy (.integer value)
  | real (value : Number.Binary64) : Tidy (.real value)
  | text (value : String) : Tidy (.text value)
  | list (items : List Value) : Tidy (.list items)
  | table {members : List (String × Value)} : (names members).Nodup →
      (∀ member ∈ members, Tidy member.2) → Tidy (.table members)

theorem tidy_emptyTable : emptyTable.Tidy :=
  .table List.nodup_nil (by simp)

theorem Tidy.put {name : String} {value : Value} {members : List (String × Value)}
    (new : value.Tidy) (tidy : (Value.table members).Tidy) :
    (Value.table (Value.put name value members)).Tidy := by
  cases tidy with
  | table distinct inner =>
      refine .table (nodup_names_put name value distinct) fun member inside => ?_
      rcases mem_put name value inside with rfl | old
      · exact new
      · exact inner member old

theorem Tidy.lookup {members : List (String × Value)} (tidy : (Value.table members).Tidy)
    {name : String} {value : Value} (found : members.lookup name = some value) : value.Tidy := by
  cases tidy with
  | table _ inner =>
      obtain ⟨before, after, rfl, _⟩ := List.lookup_eq_some_iff.mp found
      exact inner (name, value) (by simp)

mutual

theorem Tidy.overlay {below : Value} (tidyBelow : below.Tidy) :
    ∀ above : Value, above.Tidy → (Value.overlay below above).Tidy
  | .nothing, tidy => by cases tidy
  | .flag _, tidy => tidy
  | .integer _, tidy => tidy
  | .real _, tidy => tidy
  | .text _, tidy => tidy
  | .list _, tidy => tidy
  | .table members, tidy => by
      cases below with
      | table old =>
          rw [Value.overlay]
          exact Tidy.overlayMembers tidyBelow members fun member inside => by
            cases tidy with
            | table _ inner => exact inner member inside
      | _ => exact tidy

theorem Tidy.overlayMembers {old : List (String × Value)} (tidyOld : (Value.table old).Tidy) :
    ∀ members : List (String × Value), (∀ member ∈ members, member.2.Tidy) →
      (Value.table (Value.overlayMembers old members)).Tidy
  | [], _ => tidyOld
  | (name, value) :: rest, tidy => by
      obtain ⟨first, others⟩ := List.forall_mem_cons.mp tidy
      rw [Value.overlayMembers]
      refine Tidy.overlayMembers (Tidy.put ?_ tidyOld) rest others
      split
      next before found => exact Tidy.overlay (tidyOld.lookup found) value first
      next => exact first

end

/-- Only tables lead to a place, and what stands there is nothing or tidy. -/
def Leads : List String → Value → Prop
  | [], value => value = .nothing ∨ value.Tidy
  | name :: path, value =>
      ∃ members, value = .table members ∧ (names members).Nodup ∧
        ∀ inner, members.lookup name = some inner → Leads path inner

theorem leads_emptyTable (path : List String) : Leads path emptyTable := by
  cases path with
  | nil => exact Or.inr tidy_emptyTable
  | cons name path => exact ⟨[], rfl, List.nodup_nil, by simp⟩

theorem overlay_nothing (above : Value) : overlay .nothing above = above := by
  cases above <;> rfl

theorem overlay_of_not_table (below : Value) {above : Value}
    (leaf : ∀ members, above ≠ .table members) : overlay below above = above := by
  cases above with
  | table members => exact absurd rfl (leaf members)
  | _ => rfl

def isTable : Value → Bool
  | table _ => true
  | _ => false

theorem isTable_iff {value : Value} : value.isTable = true ↔ ∃ members, value = .table members := by
  cases value <;> simp [isTable]

theorem isTable_overlay {below above : Value} (table : above.isTable = true) :
    (overlay below above).isTable = true := by
  obtain ⟨members, rfl⟩ := isTable_iff.mp table
  cases below with
  | table old =>
      rw [overlay]
      rfl
  | _ => rfl

theorem isTable_layered {layers : List Value} (tables : ∀ layer ∈ layers, layer.isTable = true) :
    (layered layers).isTable = true :=
  List.foldlRecOn (motive := fun value => value.isTable = true) layers overlay rfl
    fun _ _ layer inside => isTable_overlay (tables layer inside)

theorem leads_overlay {path : List String} {below above : Value} (leadsBelow : Leads path below)
    (leadsAbove : Leads path above) : Leads path (overlay below above) := by
  induction path generalizing below above with
  | nil =>
      rcases leadsAbove with rfl | tidyAbove
      · exact Or.inl rfl
      · rcases leadsBelow with rfl | tidyBelow
        · exact Or.inr ((overlay_nothing above).symm ▸ tidyAbove)
        · exact Or.inr (tidyBelow.overlay above tidyAbove)
  | cons name path ih =>
      obtain ⟨old, rfl, oldDistinct, oldInner⟩ := leadsBelow
      obtain ⟨members, rfl, distinct, inner⟩ := leadsAbove
      refine ⟨overlayMembers old members, by rw [overlay],
        nodup_names_overlayMembers members oldDistinct, ?_⟩
      intro next found
      rw [lookup_overlayMembers distinct] at found
      cases before : old.lookup name with
      | none =>
          rw [before, none_joined] at found
          exact inner next found
      | some earlier =>
          cases given : members.lookup name with
          | none =>
              rw [before, given, joined_none] at found
              exact oldInner next (before.trans found)
          | some later =>
              rw [before, given, joined, Option.some.injEq] at found
              exact found ▸ ih (oldInner earlier before) (inner later given)

/-- Where only tables lead to a place, what two layers put there is laid over each other. -/
theorem get?_overlay {path : List String} {below above : Value} (leadsBelow : Leads path below)
    (leadsAbove : Leads path above) :
    get? path (overlay below above) = joined (get? path below) (get? path above) := by
  induction path generalizing below above with
  | nil => rfl
  | cons name path ih =>
      obtain ⟨old, rfl, _, oldInner⟩ := leadsBelow
      obtain ⟨members, rfl, distinct, inner⟩ := leadsAbove
      simp only [overlay, get?, lookup_overlayMembers distinct]
      cases before : old.lookup name with
      | none => simp
      | some earlier =>
          cases given : members.lookup name with
          | none => simp
          | some later => exact ih (oldInner earlier before) (inner later given)

/-! Many layers. -/

def lastMention (path : List String) : List Value → Option Value
  | [] => none
  | layer :: later => (lastMention path later).or (get? path layer)

theorem lastMention_append (path : List String) (earlier later : List Value) :
    lastMention path (earlier ++ later) = (lastMention path later).or (lastMention path earlier) := by
  induction earlier with
  | nil => simp [lastMention]
  | cons layer earlier ih => rw [List.cons_append, lastMention, ih, lastMention, Option.or_assoc]

theorem isSome_lastMention_iff (path : List String) (layers : List Value) :
    (lastMention path layers).isSome = true ↔ ∃ layer ∈ layers, (get? path layer).isSome = true := by
  induction layers with
  | nil => simp [lastMention]
  | cons layer layers ih => simp [lastMention, ih, or_comm]

theorem leads_foldl {path : List String} {layers : List Value} {start : Value}
    (leads : ∀ layer ∈ layers, Leads path layer) (leadsStart : Leads path start) :
    Leads path (layers.foldl overlay start) := by
  induction layers generalizing start with
  | nil => exact leadsStart
  | cons layer layers ih =>
      obtain ⟨first, others⟩ := List.forall_mem_cons.mp leads
      exact ih others (leads_overlay leadsStart first)

theorem joined_eq_some {below above : Option Value} {value : Value}
    (isJoined : joined below above = some value) (leaf : ∀ members, value ≠ .table members) :
    above.or below = some value := by
  cases above with
  | none => rwa [joined_none] at isJoined
  | some above =>
      cases below with
      | none => exact isJoined
      | some below =>
          rw [joined, Option.some.injEq] at isJoined
          have leafAbove : ∀ members, above ≠ .table members := by
            rintro members rfl
            have table : value.isTable = true := isJoined ▸ isTable_overlay rfl
            obtain ⟨all, same⟩ := isTable_iff.mp table
            exact leaf all same
          rw [overlay_of_not_table below leafAbove] at isJoined
          exact congrArg some isJoined

theorem mention_of_get?_foldl {path : List String} {layers : List Value} {start value : Value}
    (leads : ∀ layer ∈ layers, Leads path layer) (leadsStart : Leads path start)
    (found : get? path (layers.foldl overlay start) = some value)
    (leaf : ∀ members, value ≠ .table members) :
    (lastMention path layers).or (get? path start) = some value := by
  induction layers generalizing start with
  | nil => exact found
  | cons layer layers ih =>
      obtain ⟨first, others⟩ := List.forall_mem_cons.mp leads
      have later := ih others (leads_overlay leadsStart first) found
      rw [get?_overlay leadsStart first] at later
      rw [lastMention, Option.or_assoc]
      cases mention : lastMention path layers with
      | some other => rwa [mention] at later
      | none =>
          rw [mention, Option.none_or] at later
          rw [Option.none_or]
          exact joined_eq_some later leaf

theorem isSome_get?_foldl {path : List String} {layers : List Value} {start : Value}
    (leads : ∀ layer ∈ layers, Leads path layer) (leadsStart : Leads path start) :
    (get? path (layers.foldl overlay start)).isSome =
      ((lastMention path layers).or (get? path start)).isSome := by
  induction layers generalizing start with
  | nil => rfl
  | cons layer layers ih =>
      obtain ⟨first, others⟩ := List.forall_mem_cons.mp leads
      rw [List.foldl_cons, ih others (leads_overlay leadsStart first), get?_overlay leadsStart first,
        lastMention]
      cases get? path layer <;> cases get? path start <;> simp [joined]

section

variable {name : String} {path : List String} {layers : List Value}

theorem get?_emptyTable : get? (name :: path) emptyTable = none := rfl

variable (leads : ∀ layer ∈ layers, Leads (name :: path) layer)

include leads

theorem leads_layered : Leads (name :: path) (layered layers) :=
  leads_foldl leads (leads_emptyTable _)

theorem isSome_get?_layered :
    (get? (name :: path) (layered layers)).isSome = (lastMention (name :: path) layers).isSome := by
  rw [layered, isSome_get?_foldl leads (leads_emptyTable _), get?_emptyTable, Option.or_none]

theorem lastMention_eq_of_get?_layered {value : Value}
    (found : get? (name :: path) (layered layers) = some value)
    (leaf : ∀ members, value ≠ .table members) :
    lastMention (name :: path) layers = some value := by
  have mention := mention_of_get?_foldl leads (leads_emptyTable _) found leaf
  rwa [get?_emptyTable, Option.or_none] at mention

end

end AutoReply.Settings.Value
