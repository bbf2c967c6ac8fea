import AutoReply.Proofs.Settings.Overlay
import AutoReply.Proofs.Text.Lines
import AutoReply.Proofs.Toml.Scan
import AutoReply.Settings.Environment

/-!
What variables set: one table, and tidy tables only inside it.
-/

namespace AutoReply.Settings

open AutoReply.Toml

namespace Value

theorem tidy_plain (written : List Char) : (plain written).Tidy := by
  unfold plain
  split
  · exact .real _
  · split
    · split
      · exact .integer _
      · exact .text _
    · exact .text _

theorem yields_scan_and_members (fuel : Nat) :
    Yields Tidy (scan fuel) ∧
      ∀ members, (table members).Tidy →
        Yields (fun read => (table read).Tidy) (scanMembers fuel members) := by
  induction fuel with
  | zero => exact ⟨.failure, fun _ _ => .failure⟩
  | succ fuel ih =>
      obtain ⟨values, members⟩ := ih
      constructor
      · rw [scan]
        have finish {value : Value} (tidy : value.Tidy) :
            Yields Tidy (pure value >>= fun value => asciiBlanks >>= fun _ => pure value) :=
          (Yields.pure tidy).bind fun value tidy => .after fun _ => .pure tidy
        refine .after fun _ => .after fun _ => .after fun _ =>
          .ite (finish (.flag true)) (.ite (finish (.flag false)) (.after fun first => ?_))
        split
        · exact .after fun _ => (members [] tidy_emptyTable).bind fun _ tidy => finish tidy
        · exact .after fun _ => .after fun items => finish (.list items)
        · exact .after fun read => finish (.text _)
        · exact .after fun _ => .after fun read => .after fun _ => finish (.text _)
        · exact .after fun written => finish (tidy_plain _)
      · intro read tidy
        rw [scanMembers]
        refine .after fun _ => .ite (.pure tidy) (.after fun _ => .after fun name =>
          .after fun _ => .after fun _ => values.bind fun value new => ?_)
        have next : (table (put name value read)).Tidy := new.put tidy
        exact .after fun _ => .ite (members _ next) (.after fun _ => .pure next)

theorem tidy_ofVariable (written : String) : (ofVariable written).Tidy := by
  unfold ofVariable
  split
  next value read => exact (yields_scan_and_members _).1 _ _ read
  next => exact .text written

theorem tidy_nested (path : List String) {value : Value} (tidy : value.Tidy) :
    (nested path value).Tidy := by
  induction path with
  | nil => exact tidy
  | cons name path ih => exact .table (by simp [names]) (by simpa [nested] using ih)

theorem tidy_layered {layers : List Value} (tidy : ∀ layer ∈ layers, layer.Tidy) :
    (layered layers).Tidy :=
  List.foldlRecOn layers overlay tidy_emptyTable fun _ tidyBelow layer inside =>
    tidyBelow.overlay layer (tidy layer inside)

end Value

theorem tidy_ofEnvironment (environment : Environment) : (ofEnvironment environment).Tidy := by
  refine Value.tidy_layered fun layer inside => ?_
  obtain ⟨⟨name, written⟩, _, given⟩ := List.mem_filterMap.mp inside
  obtain ⟨path, _, rfl⟩ := Option.map_eq_some_iff.mp given
  exact Value.tidy_nested path (Value.tidy_ofVariable written)

theorem ne_nil_of_pathOf {name : String} {path : List String} (found : pathOf name = some path) :
    path ≠ [] := by
  unfold pathOf at found
  split at found
  next => contradiction
  next rest _ =>
    obtain ⟨first, others, split, _⟩ :=
      Text.pieces_splitWhere (· == '.') ((Text.trim (pointed rest)).map Char.toLower)
    simp only [split] at found
    split at found
    · contradiction
    · cases found
      simp

theorem isTable_ofEnvironment (environment : Environment) :
    (ofEnvironment environment).isTable = true := by
  refine Value.isTable_layered fun layer inside => ?_
  obtain ⟨⟨name, written⟩, _, given⟩ := List.mem_filterMap.mp inside
  obtain ⟨path, isPath, rfl⟩ := Option.map_eq_some_iff.mp given
  cases path with
  | nil => exact absurd rfl (ne_nil_of_pathOf isPath)
  | cons first rest => rfl

end AutoReply.Settings
