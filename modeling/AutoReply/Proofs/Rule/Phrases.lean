import AutoReply.Proofs.Text.Lines
import AutoReply.Proofs.Text.Lowercase
import AutoReply.Rule.Phrases

/-!
Phrases with and without regard to case. Without it a text may still lose a match, but only for the
sake of a sigma that is in the middle of a word of the text and at the end of the phrase, or the
other way round.
-/

namespace AutoReply.Rule.Phrases

open AutoReply.Text

variable {phrases : List String} {inside : Bool} {text : String}

theorem isMatch_exactly :
    (make phrases inside true).isMatch text = true ↔
      ∃ phrase ∈ phrases,
        if inside = true then phrase.toList <:+: text.toList else text = phrase := by
  cases inside with
  | false => simp [make, isMatch]
  | true => simp [make, isMatch, contains_iff]

theorem isMatch_lowercase :
    (make phrases inside false).isMatch text = true ↔
      ∃ phrase ∈ phrases,
        if inside = true then lowerChars phrase.toList <:+: lowerChars text.toList
        else lower text = lower phrase := by
  cases inside with
  | false => simp [make, isMatch]
  | true => simp [make, isMatch, contains_iff, lower]

/-- An occurrence of a phrase is lost when one of its sigmas has another form in the text, which it
has only if nothing but ignored characters is between it and an end of the phrase. -/
def LosesSigma (before phrase after : List Char) : Prop :=
  ∃ left right, phrase = left ++ 'Σ' :: right ∧
    lowerSigma (left.reverse ++ before.reverse) (right ++ after) ≠ lowerSigma left.reverse right ∧
    ((∀ character ∈ left, isCaseIgnorable character = true) ∨
      ∀ character ∈ right, isCaseIgnorable character = true)

theorem found_or_losesSigma (before phrase after : List Char) :
    lowerChars phrase <:+: lowerChars (before ++ phrase ++ after) ∨
      LosesSigma before phrase after := by
  by_cases kept : SigmasKept before phrase after
  · exact .inl (lowerChars_found kept)
  · unfold SigmasKept at kept
    simp only [not_forall] at kept
    obtain ⟨left, right, split, changed⟩ := kept
    exact .inr ⟨left, right, split, changed, ignorable_of_lowerSigma_ne changed⟩

/-- Without regard to case the lower cases are compared. A text that matches exactly then matches as
well, unless it contains the phrases only where one of their sigmas takes another form. -/
theorem match_lost_for_sigmas_only (phrases : List String) (inside : Bool) (text : String) :
    ((make phrases inside false).isMatch text = true ↔
      ∃ phrase ∈ phrases,
        if inside = true then lowerChars phrase.toList <:+: lowerChars text.toList
        else lower text = lower phrase) ∧
    ((make phrases inside true).isMatch text = true →
      (make phrases inside false).isMatch text = true ∨
        (inside = true ∧ ∀ phrase ∈ phrases, ∀ before after,
          text.toList = before ++ phrase.toList ++ after →
            LosesSigma before phrase.toList after)) := by
  refine ⟨isMatch_lowercase, fun matched => ?_⟩
  cases inside with
  | false =>
      obtain ⟨phrase, member, same⟩ := isMatch_exactly.mp matched
      rw [if_neg Bool.false_ne_true] at same
      refine .inl (isMatch_lowercase.mpr ⟨phrase, member, ?_⟩)
      rw [if_neg Bool.false_ne_true, same]
  | true =>
      by_cases found : (make phrases true false).isMatch text = true
      · exact .inl found
      · refine .inr ⟨rfl, fun phrase member before after split => ?_⟩
        rcases found_or_losesSigma before phrase.toList after with occurs | loses
        · refine absurd (isMatch_lowercase.mpr ⟨phrase, member, ?_⟩) found
          rwa [if_pos rfl, split]
        · exact loses

/-- The second phrase only begins a word of the text, and its sigma is no longer final there. -/
theorem wise_greeting_matches :
    (make ["ΣΟΦΟΣ", "ΚΑΛΩΣ"] true true).isMatch "ΚΑΛΩΣΟΡΙΣΕΣ, ΣΟΦΟΣ" = true ∧
      LosesSigma [] "ΚΑΛΩΣ".toList "ΟΡΙΣΕΣ, ΣΟΦΟΣ".toList ∧
      (make ["ΣΟΦΟΣ", "ΚΑΛΩΣ"] true false).isMatch "ΚΑΛΩΣΟΡΙΣΕΣ, ΣΟΦΟΣ" = true := by
  have matched : (make ["ΣΟΦΟΣ", "ΚΑΛΩΣ"] true true).isMatch "ΚΑΛΩΣΟΡΙΣΕΣ, ΣΟΦΟΣ" = true := by
    decide +kernel
  have loses : LosesSigma [] "ΚΑΛΩΣ".toList "ΟΡΙΣΕΣ, ΣΟΦΟΣ".toList :=
    ⟨"ΚΑΛΩ".toList, [], by decide, by decide +kernel, .inr (List.forall_mem_nil _)⟩
  have kept : SigmasKept "ΚΑΛΩΣΟΡΙΣΕΣ, ".toList "ΣΟΦΟΣ".toList [] := by
    decide +kernel
  refine ⟨matched, loses, ?_⟩
  rcases (match_lost_for_sigmas_only _ _ _).2 matched with found | ⟨_, lost⟩
  · exact found
  · obtain ⟨left, right, split, changed, _⟩ :=
      lost "ΣΟΦΟΣ" List.mem_cons_self "ΚΑΛΩΣΟΡΙΣΕΣ, ".toList [] (by decide)
    exact absurd (kept left right split) changed

def KeepsMatches : Prop :=
  ∀ (phrases : List String) (inside : Bool) (text : String),
    (make phrases inside true).isMatch text = true →
      (make phrases inside false).isMatch text = true

theorem not_keepsMatches : ¬ KeepsMatches := by
  intro keeps
  have lost := keeps ["ΚΑΛΩΣ"] true "ΚΑΛΩΣΟΡΙΣΜΑ" (by decide +kernel)
  revert lost
  decide +kernel

end AutoReply.Rule.Phrases
