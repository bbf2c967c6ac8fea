import AutoReply.Proofs.Settings.Overlay
import AutoReply.Proofs.Toml.Scan
import AutoReply.Toml.Document
import Mathlib.Data.Option.Basic

/-!
What documents hold: tidy tables only, whatever their text is.
-/

namespace AutoReply.Toml

open AutoReply.Settings AutoReply.Settings.Value

/-! Tables as they are put together. -/

inductive Item.Tidy : Item → Prop
  | value {value : Value} : value.Tidy → Tidy (.value value)
  | table {origin : Origin} {members : Members} : (names members).Nodup →
      (∀ member ∈ members, Tidy member.2) → Tidy (.table origin members)
  | tables (latest : Members) (earlier : List Members) : Tidy (.tables latest earlier)

structure TidyMembers (members : Members) : Prop where
  distinct : (names members).Nodup
  inner : ∀ member ∈ members, member.2.Tidy

theorem tidyMembers_nil : TidyMembers [] := ⟨List.nodup_nil, by simp⟩

namespace TidyMembers

variable {members : Members}

theorem put {name : String} {item : Item} (new : item.Tidy) (tidy : TidyMembers members) :
    TidyMembers (Value.put name item members) := by
  refine ⟨nodup_names_put name item tidy.distinct, fun member inside => ?_⟩
  rcases mem_put name item inside with rfl | old
  · exact new
  · exact tidy.inner member old

theorem table (origin : Origin) (tidy : TidyMembers members) : (Item.table origin members).Tidy :=
  .table tidy.distinct tidy.inner

theorem of_lookup {name : String} {origin : Origin} {inner : Members} (tidy : TidyMembers members)
    (found : members.lookup name = some (.table origin inner)) : TidyMembers inner := by
  obtain ⟨before, after, rfl, _⟩ := List.lookup_eq_some_iff.mp found
  cases tidy.inner (name, .table origin inner) (by simp) with
  | table distinct inside => exact ⟨distinct, inside⟩

end TidyMembers

/-- A change that leaves tidy members tidy does so at the end of every path. -/
theorem tidyMembers_changeAt {origin : Origin} {change : Origin → Members → Option Members}
    (keeps : ∀ reached members result, TidyMembers members → change reached members = some result →
      TidyMembers result) (path : List String) {reached : Origin} {members result : Members}
    (tidy : TidyMembers members)
    (changed : changeAt origin change path reached members = some result) :
    TidyMembers result := by
  induction path generalizing reached members result with
  | nil => exact keeps reached members result tidy changed
  | cons name path ih =>
      rw [changeAt] at changed
      split at changed
      next =>
        obtain ⟨inner, made, rfl⟩ := Option.map_eq_some_iff.mp changed
        exact tidy.put ((ih tidyMembers_nil made).table origin)
      next => contradiction
      next found inner here =>
        split at changed
        · contradiction
        · obtain ⟨next, made, rfl⟩ := Option.map_eq_some_iff.mp changed
          exact tidy.put ((ih (tidy.of_lookup here) made).table found)
      next latest earlier _ =>
        obtain ⟨next, _, rfl⟩ := Option.map_eq_some_iff.mp changed
        exact tidy.put (.tables next earlier)

theorem tidyMembers_addValue {name : String} {value : Value} {members result : Members}
    (new : value.Tidy) (tidy : TidyMembers members)
    (added : addValue name value members = some result) : TidyMembers result := by
  unfold addValue at added
  split at added
  · contradiction
  · cases added
    exact tidy.put (.value new)

theorem tidyMembers_setKey {key : List String} {value : Value} {members result : Members}
    (new : value.Tidy) (tidy : TidyMembers members)
    (set : setKey key value members = some result) : TidyMembers result := by
  unfold setKey at set
  split at set
  · contradiction
  · split at set
    · exact tidyMembers_addValue new tidy set
    · refine tidyMembers_changeAt ?_ _ tidy set
      intro reached inner result tidyInner added
      split at added
      · exact tidyMembers_addValue new tidyInner added
      · contradiction

theorem tidyMembers_openTable {path : List String} {members result : Members}
    (tidy : TidyMembers members) (opened : openTable path members = some result) :
    TidyMembers result := by
  unfold openTable at opened
  split at opened
  · contradiction
  · refine tidyMembers_changeAt ?_ _ tidy opened
    intro reached inner result tidyInner changed
    split at changed
    next =>
      cases changed
      exact tidyInner.put (tidyMembers_nil.table .header)
    next found here =>
      cases changed
      exact tidyInner.put ((tidyInner.of_lookup here).table .header)
    next => contradiction

theorem tidyMembers_openItem {path : List String} {members result : Members}
    (tidy : TidyMembers members) (opened : openItem path members = some result) :
    TidyMembers result := by
  unfold openItem at opened
  split at opened
  · contradiction
  · refine tidyMembers_changeAt ?_ _ tidy opened
    intro reached inner result tidyInner changed
    split at changed
    next =>
      cases changed
      exact tidyInner.put (.tables [] [])
    next latest earlier _ =>
      cases changed
      exact tidyInner.put (.tables [] (latest :: earlier))
    next => contradiction

theorem tidyMembers_setKeyAt {path key : List String} {value : Value} {members result : Members}
    (new : value.Tidy) (tidy : TidyMembers members)
    (set : setKeyAt path key value members = some result) : TidyMembers result :=
  tidyMembers_changeAt (fun _ _ _ tidyInner changed => tidyMembers_setKey new tidyInner changed)
    path tidy set

theorem names_memberValues (members : Members) : names (memberValues members) = names members := by
  induction members with
  | nil => rfl
  | cons member rest ih =>
      rw [memberValues, names, List.map_cons]
      exact congrArg (member.1 :: ·) ih

mutual

theorem tidy_toValue : ∀ item : Item, item.Tidy → item.toValue.Tidy
  | .value value, tidy => by
      cases tidy with
      | value here => exact here
  | .table origin members, tidy => by
      cases tidy with
      | table distinct inner =>
          rw [Item.toValue]
          exact .table (by rwa [names_memberValues]) (tidy_memberValues members inner)
  | .tables _ _, _ => by
      rw [Item.toValue]
      exact .list _

theorem tidy_memberValues : ∀ members : Members, (∀ member ∈ members, member.2.Tidy) →
    ∀ member ∈ memberValues members, member.2.Tidy
  | [], _ => by simp [memberValues]
  | (name, item) :: rest, tidy => by
      obtain ⟨first, others⟩ := List.forall_mem_cons.mp tidy
      rw [memberValues]
      exact List.forall_mem_cons.mpr ⟨tidy_toValue item first, tidy_memberValues rest others⟩

end

theorem TidyMembers.values {members : Members} (tidy : TidyMembers members) :
    (Value.table (memberValues members)).Tidy :=
  .table (by rw [names_memberValues]; exact tidy.distinct) (tidy_memberValues members tidy.inner)

/-! What is read. -/

theorem tidy_dateValue : dateValue.Tidy :=
  .table (by decide) (by simpa using Tidy.text "")

theorem yields_scalar : Yields Tidy scalar := by
  refine .after fun first => ?_
  split
  · exact .after fun read => .pure (.text read)
  · exact .after fun read => .pure (.text read)
  · exact .after fun read => .pure (.flag read)
  · exact .after fun read => .pure (.flag read)
  · exact .after fun read => .pure (.real read)
  · exact .after fun read => .pure (.real read)
  · refine .orElse ?_ (.orElse ?_ (.orElse ?_ ?_))
    · exact .after fun _ => .pure tidy_dateValue
    · exact .map fun read => .real read
    · exact .map fun read => .real read
    · exact .map fun read => .integer read

theorem yields_value_and_pairs (fuel : Nat) :
    (∀ levels, Yields Tidy (value fuel levels)) ∧
      ∀ levels members, TidyMembers members → Yields TidyMembers (pairs fuel levels members) := by
  induction fuel with
  | zero => exact ⟨fun _ => .failure, fun _ _ _ => .failure⟩
  | succ fuel ih =>
      obtain ⟨values, members⟩ := ih
      constructor
      · intro levels
        rw [value]
        refine .after fun _ => .ite ?_ (.after fun _ => .ite ?_ yields_scalar)
        · exact .after fun _ => .after fun read => .pure (.list read)
        · refine .after fun _ => .after fun _ => .after fun _ => .ite (.pure tidy_emptyTable) ?_
          exact (members (levels - 1) [] tidyMembers_nil).bind fun read tidy => .pure tidy.values
      · intro levels read tidy
        rw [pairs]
        refine .after fun name => .after fun _ => .after fun _ =>
          (values levels).bind fun given new => .after fun _ => ?_
        split
        · exact .failure
        next set =>
          have next := tidyMembers_setKey new tidy set
          exact .after fun _ => .ite (members levels _ next) (.after fun _ => .pure next)

theorem yields_lines (fuel : Nat) (path : List String) {members : Members}
    (tidy : TidyMembers members) : Yields TidyMembers (lines fuel path members) := by
  induction fuel generalizing path members with
  | zero => exact .failure
  | succ fuel ih =>
      rw [lines]
      refine .after fun _ => .after fun first => ?_
      split
      · exact .pure tidy
      · refine .after fun isItem => ?_
        have opens {path : List String} {next : Members}
            (opened : (if isItem then openItem path members else openTable path members) =
              some next) : Yields TidyMembers (lines fuel path next) := by
          refine ih path ?_
          split at opened
          · exact tidyMembers_openItem tidy opened
          · exact tidyMembers_openTable tidy opened
        refine .ite ?_ ?_
        · refine .after fun _ => .after fun path => .after fun _ => .after fun _ => ?_
          split
          next opened => exact opens opened
          next => exact .failure
        · refine .after fun path => .after fun _ => .after fun _ => ?_
          split
          next opened => exact opens opened
          next => exact .failure
      · refine .after fun name => .after fun _ => .after fun _ =>
          ((yields_value_and_pairs fuel).1 _).bind fun given new => .after fun _ => ?_
        split
        next set => exact ih path (tidyMembers_setKeyAt new tidy set)
        next => exact .failure

theorem document?_eq_some {text : List Char} {found : Value} (read : document? text = some found) :
    ∃ members, TidyMembers members ∧ found = .table (memberValues members) := by
  unfold document? at read
  extract_lets source at read
  split at read
  next members reached =>
    cases read
    exact ⟨members, yields_lines _ [] tidyMembers_nil _ _ reached, rfl⟩
  next => contradiction

theorem isTable_document? {text : List Char} {found : Value}
    (read : document? text = some found) : found.isTable = true := by
  obtain ⟨members, _, rfl⟩ := document?_eq_some read
  rfl

/-- However a document is laid out, no table in it has a member twice. -/
theorem tidy_document? {text : List Char} {found : Value} (read : document? text = some found) :
    found.Tidy := by
  obtain ⟨members, tidy, rfl⟩ := document?_eq_some read
  exact tidy.values

end AutoReply.Toml
