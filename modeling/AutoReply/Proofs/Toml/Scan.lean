import AutoReply.Toml.Scan

/-!
Properties of all that a scan can read, whatever text it stands before.
-/

namespace AutoReply.Toml

/-- Whatever a scan reads has a property. -/
def Yields {α : Type} (holds : α → Prop) (scan : Scan α) : Prop :=
  ∀ text result, scan text = some result → holds result.1

namespace Yields

variable {α β : Type} {holds : α → Prop} {later : β → Prop}

theorem pure {value : α} (here : holds value) : Yields holds (Pure.pure value) := by
  rintro text result read
  cases read
  exact here

theorem failure : Yields holds (Alternative.failure : Scan α) := by
  rintro text result read
  contradiction

theorem bind {scan : Scan α} {next : α → Scan β} (first : Yields holds scan)
    (behind : ∀ value, holds value → Yields later (next value)) : Yields later (scan >>= next) := by
  intro text result read
  obtain ⟨⟨value, rest⟩, before, after⟩ := Option.bind_eq_some_iff.mp read
  exact behind value (first text (value, rest) before) rest result after

/-- Only the last step of a scan matters for a property that it has by itself. -/
theorem after {scan : Scan α} {next : α → Scan β} (behind : ∀ value, Yields later (next value)) :
    Yields later (scan >>= next) :=
  have any : Yields (fun _ => True) scan := fun _ _ _ => trivial
  any.bind fun value _ => behind value

theorem map {scan : Scan α} {change : α → β} (all : ∀ value, later (change value)) :
    Yields later (change <$> scan) := by
  intro text result read
  obtain ⟨⟨value, rest⟩, _, same⟩ := Option.bind_eq_some_iff.mp read
  cases same
  exact all value

theorem ite {chosen : Prop} [Decidable chosen] {scan other : Scan α} (first : Yields holds scan)
    (second : Yields holds other) : Yields holds (if chosen then scan else other) := by
  by_cases isChosen : chosen
  · rwa [if_pos isChosen]
  · rwa [if_neg isChosen]

theorem orElse {scan other : Scan α} (first : Yields holds scan) (second : Yields holds other) :
    Yields holds (scan <|> other) := by
  intro text result read
  change (scan text <|> other text) = some result at read
  cases tried : scan text with
  | some found =>
      rw [tried] at read
      exact first text result (tried.trans read)
  | none =>
      rw [tried] at read
      exact second text result read

end Yields

end AutoReply.Toml
