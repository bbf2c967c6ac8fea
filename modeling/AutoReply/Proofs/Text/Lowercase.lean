import Mathlib.Data.List.TakeWhile
import AutoReply.Text.Lowercase

/-!
Lowercasing a part of a text. It gives the part of the lowercased text, except that a sigma may take
another form when the part is lowercased alone.
-/

namespace AutoReply.Text

/-- The lower case of a part of a text, whose other parts are before it, backwards, and after it. -/
def lowerBetween (before after : List Char) : List Char → List Char
  | [] => []
  | character :: rest =>
      (if character = 'Σ' then [lowerSigma before (rest ++ after)]
        else lowerCharacter character) ++ lowerBetween (character :: before) after rest

theorem lowerAfter_append (before text after : List Char) :
    lowerAfter before (text ++ after) =
      lowerBetween before after text ++ lowerAfter (text.reverse ++ before) after := by
  induction text generalizing before with
  | nil => rfl
  | cons character rest ih =>
      rw [List.cons_append, lowerAfter, lowerBetween, ih, List.reverse_cons]
      simp

theorem forall_split_cons {mark first : Char} {rest : List Char}
    {holds : List Char → List Char → Prop} :
    (∀ left right, first :: rest = left ++ mark :: right → holds left right) ↔
      (first = mark → holds [] rest) ∧
        ∀ left right, rest = left ++ mark :: right → holds (first :: left) right := by
  constructor
  · intro all
    constructor
    · rintro rfl
      exact all [] rest rfl
    · intro left right split
      exact all (first :: left) right (by rw [split, List.cons_append])
  · rintro ⟨atFirst, later⟩ left right split
    cases left with
    | nil =>
        cases split
        exact atFirst rfl
    | cons head left =>
        cases split
        exact later left right rfl

/-- Each sigma of a phrase has the form in the text around it that it has in the phrase alone. -/
def SigmasKept (before phrase after : List Char) : Prop :=
  ∀ left right, phrase = left ++ 'Σ' :: right →
    lowerSigma (left.reverse ++ before.reverse) (right ++ after) = lowerSigma left.reverse right

theorem lowerBetween_eq_lowerAfter (done before after rest : List Char) :
    lowerBetween (done ++ before) after rest = lowerAfter done rest ↔
      ∀ left right, rest = left ++ 'Σ' :: right →
        lowerSigma (left.reverse ++ (done ++ before)) (right ++ after) =
          lowerSigma (left.reverse ++ done) right := by
  induction rest generalizing done with
  | nil => simp [lowerBetween, lowerAfter]
  | cons character rest ih =>
      have others := ih (character :: done)
      rw [List.cons_append] at others
      rw [lowerBetween, lowerAfter, forall_split_cons]
      simp only [List.reverse_cons, List.append_assoc, List.cons_append, List.nil_append]
      rw [← others]
      by_cases sigma : character = 'Σ'
      · simp [sigma]
      · simp [sigma]

theorem lowerBetween_eq_lowerChars {before phrase after : List Char} :
    lowerBetween before.reverse after phrase = lowerChars phrase ↔
      SigmasKept before phrase after := by
  have general := lowerBetween_eq_lowerAfter [] before.reverse after phrase
  simpa [SigmasKept, lowerChars] using general

instance (before phrase after : List Char) : Decidable (SigmasKept before phrase after) :=
  decidable_of_iff _ lowerBetween_eq_lowerChars

theorem lowerChars_found {before phrase after : List Char} (kept : SigmasKept before phrase after) :
    lowerChars phrase <:+: lowerChars (before ++ phrase ++ after) := by
  have split : lowerChars (before ++ phrase ++ after) =
      lowerBetween [] (phrase ++ after) before ++
        (lowerBetween before.reverse after phrase ++
          lowerAfter (phrase.reverse ++ before.reverse) after) := by
    rw [lowerChars, List.append_assoc, lowerAfter_append, lowerAfter_append, List.append_nil]
  rw [lowerBetween_eq_lowerChars.mpr kept, ← List.append_assoc] at split
  exact ⟨_, _, split.symm⟩

theorem leadsToCased_append {text : List Char}
    (plain : ¬ ∀ character ∈ text, isCaseIgnorable character = true) (rest : List Char) :
    leadsToCased (text ++ rest) = leadsToCased text := by
  unfold leadsToCased
  rw [List.dropWhile_append]
  cases left : text.dropWhile isCaseIgnorable with
  | nil => exact absurd (List.dropWhile_eq_nil_iff.mp left) plain
  | cons first others => rfl

theorem ignorable_of_lowerSigma_ne {before left right after : List Char}
    (changed : lowerSigma (left.reverse ++ before) (right ++ after) ≠
      lowerSigma left.reverse right) :
    (∀ character ∈ left, isCaseIgnorable character = true) ∨
      ∀ character ∈ right, isCaseIgnorable character = true := by
  by_cases ignoredLeft : ∀ character ∈ left, isCaseIgnorable character = true
  · exact .inl ignoredLeft
  · by_cases ignoredRight : ∀ character ∈ right, isCaseIgnorable character = true
    · exact .inr ignoredRight
    · have plainLeft : ¬ ∀ character ∈ left.reverse, isCaseIgnorable character = true := by
        simpa using ignoredLeft
      refine absurd ?_ changed
      unfold lowerSigma
      rw [leadsToCased_append plainLeft, leadsToCased_append ignoredRight]

end AutoReply.Text
