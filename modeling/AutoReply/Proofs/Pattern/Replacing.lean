import AutoReply.Proofs.Pattern.Matching

/-!
Replacing the matches of a pattern, from one place in a text to the next.
-/

namespace AutoReply.Pattern

/-- From a place on, replacing matches makes this of the text. -/
def Replaces (pattern : Pattern) (replacement before after result : List Char) : Prop :=
  ∀ behindMatch,
    pattern.replaceFrom replacement before.length before.getLast? 0 behindMatch after = result

namespace Replaces

variable {pattern : Pattern} {replacement before after result : List Char}

theorem replaceAll {text : String} (replaces : pattern.Replaces replacement [] text.toList result) :
    pattern.replaceAll text (String.ofList replacement) = String.ofList result := by
  rw [Pattern.replaceAll, String.toList_ofList]
  exact congrArg String.ofList (replaces false)

theorem nil (unmatched : pattern.matchAt (.between before []) = none) :
    pattern.Replaces replacement before [] [] := by
  intro behindMatch
  rw [Cursor.between] at unmatched
  rw [replaceFrom, nextMatch, unmatched]
  rfl

theorem copied {character : Char}
    (unmatched : pattern.matchAt (.between before (character :: after)) = none)
    (rest : pattern.Replaces replacement (before ++ [character]) after result) :
    pattern.Replaces replacement before (character :: after) (character :: result) := by
  intro behindMatch
  have behind := rest false
  rw [List.length_append, List.length_singleton, List.getLast?_concat] at behind
  rw [Cursor.between] at unmatched
  rw [replaceFrom, nextMatch, unmatched, ← behind]
  rfl

/-- A part of the text without matches stays as it is. -/
theorem kept {part : List Char}
    (unmatched : ∀ skipped character rest, part = skipped ++ character :: rest →
      pattern.matchAt (.between (before ++ skipped) (character :: rest ++ after)) = none)
    (rest : pattern.Replaces replacement (before ++ part) after result) :
    pattern.Replaces replacement before (part ++ after) (part ++ result) := by
  induction part generalizing before with
  | nil => rwa [List.append_nil] at rest
  | cons character part ih =>
      have first := unmatched [] character part rfl
      rw [List.append_nil] at first
      refine copied first (ih (fun skipped other others split => ?_) ?_)
      · have inside := unmatched (character :: skipped) other others (by rw [split]; rfl)
        rwa [List.append_assoc, List.singleton_append]
      · rwa [List.append_assoc, List.singleton_append]

/-- The characters of a match are left out. -/
theorem skipped {inside : List Char}
    (rest : pattern.Replaces replacement (before ++ inside) after result) (behindMatch : Bool) :
    pattern.replaceFrom replacement before.length before.getLast? inside.length behindMatch
      (inside ++ after) = result := by
  induction inside generalizing before behindMatch with
  | nil =>
      rw [List.append_nil] at rest
      exact rest behindMatch
  | cons character inside ih =>
      have behind := @ih (before ++ [character]) (by rwa [List.append_assoc]) true
      rw [List.length_append, List.length_singleton, List.getLast?_concat] at behind
      exact behind

theorem filled {inside : List Char} {found : Thread} (nonempty : inside ≠ [])
    (finds : pattern.matchAt (.between before (inside ++ after)) = some found)
    (ends : found.cursor = .between (before ++ inside) after)
    (rest : pattern.Replaces replacement (before ++ inside) after result) :
    pattern.Replaces replacement before (inside ++ after)
      (expand pattern.names found.groups replacement ++ result) := by
  intro behindMatch
  cases inside with
  | nil => exact absurd rfl nonempty
  | cons character inside =>
      have offset : found.cursor.offset = before.length + (inside.length + 1) := by
        simp [ends, Cursor.between]
      have behind := @skipped _ _ (before ++ [character]) after result inside
        (by rwa [List.append_assoc]) true
      rw [List.length_append, List.length_singleton, List.getLast?_concat] at behind
      rw [Cursor.between, List.cons_append] at finds
      have counts : pattern.nextMatch behindMatch
          ⟨before.length, before.getLast?, character :: (inside ++ after)⟩ = some found := by
        rw [nextMatch, finds]
        simp [Option.filter, offset]
      rw [List.cons_append, replaceFrom, counts]
      simp only [offset, Nat.add_sub_cancel_left]
      rw [if_neg (Nat.succ_ne_zero _), Nat.add_sub_cancel, behind]

end Replaces

end AutoReply.Pattern
