import AutoReply.Proofs.Number.Reading
import AutoReply.Proofs.Text.Words
import AutoReply.Rule.Response

/-!
A state that a rule reports is a state that it accepts, and accepting it changes nothing.
-/

namespace AutoReply

namespace Text

theorem dropWhile_eq_self {test : Char → Bool} {text : List Char}
    (none : ∀ character ∈ text, test character = false) : text.dropWhile test = text := by
  cases text with
  | nil => rfl
  | cons first rest => simp [none first List.mem_cons_self]

theorem trim_eq_self {text : List Char} (none : ∀ character ∈ text, isBlank character = false) :
    trim text = text := by
  have reversed : ∀ character ∈ text.reverse, isBlank character = false := by
    intro character member
    exact none character (List.mem_reverse.mp member)
  rw [trim, dropBlanks, trimEnd, dropEndWhile, dropWhile_eq_self none, dropWhile_eq_self reversed,
    List.reverse_reverse]

end Text

namespace Number

theorem Decimal.mem_positional {decimal : Decimal} {character : Char}
    (member : character ∈ decimal.positional) : character.isDigit = true ∨ character = '.' := by
  unfold positional at member
  simp only at member
  split at member
  next =>
    split at member
    next =>
      rw [List.mem_singleton.mp member]
      exact .inl (by decide)
    next =>
      exact .inl (isDigit_of_mem_extended member)
  next =>
    rcases List.mem_append.mp member with fromWhole | fromRest
    · exact .inl (isDigit_of_mem_padded (List.mem_of_mem_take fromWhole))
    · rcases List.mem_cons.mp fromRest with point | fromFraction
      · exact .inr point
      · exact .inl (isDigit_of_mem_padded (List.mem_of_mem_drop fromFraction))

theorem Binary64.isBlank_of_mem_signed {negative : Bool} {decimal : Decimal} {character : Char}
    (member : character ∈ signed negative decimal.positional) :
    Text.isBlank character = false := by
  have inPositional : character = '-' ∨ character ∈ decimal.positional := by
    cases negative with
    | true => exact List.mem_cons.mp member
    | false => exact .inr member
  rcases inPositional with sign | inside
  · subst sign
    decide
  · rcases Decimal.mem_positional inside with isDigit | point
    · simp only [Char.isDigit, Bool.and_eq_true, decide_eq_true_eq] at isDigit
      refine Text.isBlank_eq_false ?_ ?_
      · exact Nat.le_trans (by decide) isDigit.1
      · exact Nat.le_trans isDigit.2 (by decide)
    · subst point
      decide

theorem Binary64.fixed_one (negative : Bool) (place : Fin magnitudeCount) :
    (finite negative place).fixed 1 = signed negative
      (Decimal.positional ⟨roundHalfEven (units place * tenTo 1) unitsInOne, -1⟩) := rfl

end Number

namespace Rule

open AutoReply.Number AutoReply.Text

/-- The text of a chance is accepted as the very same chance. -/
theorem chanceOfText_chanceText {chance : Binary64} (probability : isProbability chance = true) :
    chanceOfText (chanceText chance) = .ok chance := by
  have finite : ∃ negative place, chance = .finite negative place := by
    cases chance with
    | notANumber => contradiction
    | infinite negative => contradiction
    | finite negative place => exact ⟨negative, place, rfl⟩
  obtain ⟨negative, place, rfl⟩ := finite
  have read : Binary64.ofText? (trim (chanceText (.finite negative place)).toList) =
      some (.finite negative place) := by
    unfold chanceText
    rw [String.toList_ofList]
    split
    next whole =>
      rw [Binary64.fixed_one, trim_eq_self fun _ => Binary64.isBlank_of_mem_signed,
        ← Binary64.fixed_one]
      exact Binary64.ofText?_fixed whole
    next =>
      rw [Binary64.shown, trim_eq_self fun _ => Binary64.isBlank_of_mem_signed]
      exact Binary64.ofText?_shown (.finite negative place)
  unfold chanceOfText
  rw [read]
  exact if_pos probability

theorem validChance_eq_ok_iff {chance valid : Binary64} :
    validChance chance = .ok valid ↔ valid = chance ∧ isProbability chance = true := by
  unfold validChance
  cases isProbability chance with
  | true => simp [eq_comm]
  | false => simp

theorem chanceOfText_eq_ok_iff {state : String} {chance : Binary64} :
    chanceOfText state = .ok chance ↔
      Binary64.ofText? (trim state.toList) = some chance ∧ isProbability chance = true := by
  unfold chanceOfText
  cases Binary64.ofText? (trim state.toList) with
  | none => simp
  | some read =>
      constructor
      · intro accepted
        split at accepted
        next => contradiction
        next => contradiction
        next found =>
          obtain ⟨rfl, probability⟩ := validChance_eq_ok_iff.mp accepted
          exact ⟨found, probability⟩
      · rintro ⟨found, probability⟩
        cases found
        cases chance with
        | notANumber => contradiction
        | infinite negative => contradiction
        | finite negative place => exact validChance_eq_ok_iff.mpr ⟨rfl, probability⟩

theorem ReplyMode.ofText_text (mode : ReplyMode) : ofText mode.text = .ok mode := by
  cases mode <;> rfl

theorem ReplyMode.ofText_eq_ok_iff {state : String} {mode : ReplyMode} :
    ofText state = .ok mode ↔ state = mode.text := by
  constructor
  · intro accepted
    unfold ofText at accepted
    split at accepted
    next isMessage =>
      cases accepted
      exact isMessage
    next =>
      split at accepted
      next isReact =>
        cases accepted
        exact isReact
      next => contradiction
  · rintro rfl
    exact ofText_text mode

end Rule

end AutoReply
