import Mathlib.Data.List.TakeWhile
import AutoReply.Number.Text
import AutoReply.Proofs.Number.Shortest

/-!
Every finite number is read back from the text it is shown as.
-/

namespace AutoReply.Number

theorem lt_tenTo_digitCount (number : Nat) : number < tenTo (digitCount number) :=
  (Nat.length_toDigits_le_iff (by decide) Nat.length_toDigits_pos).mp (Nat.le_refl _)

theorem tenTo_le_of_digitCount {number : Nat} (positive : 0 < number) :
    tenTo (digitCount number - 1) ≤ number := by
  have some : 0 < digitCount number := Nat.length_toDigits_pos
  rcases Nat.eq_zero_or_pos (digitCount number - 1) with one | more
  · rw [one]
    exact positive
  · refine Nat.le_of_not_lt ?_
    intro below
    have := (Nat.length_toDigits_le_iff (by decide) more).mpr below
    unfold digitCount at *
    omega

theorem scale_le {place : Nat} (finite : place < magnitudeCount) : scale place ≤ 2045 := by
  have below : place / leadingBit < 2047 := (Nat.div_lt_iff_lt_mul (by decide)).mpr finite
  unfold scale
  split <;> omega

theorem upperEnd_lt {place : Nat} (finite : place < magnitudeCount) :
    upperEnd place < 4 * (tenTo 400 * unitsInOne) := by
  have step : spacing place ≤ Nat.pow 2 2045 := Nat.pow_le_pow_right (by decide) (scale_le finite)
  have size := significand_lt place
  calc upperEnd place = (4 * significand place + 2) * spacing place := by
        unfold upperEnd units
        ring
    _ ≤ 8 * leadingBit * Nat.pow 2 2045 := Nat.mul_le_mul (by omega) step
    _ < 4 * (tenTo 400 * unitsInOne) := by decide +kernel

theorem unitsInOne_lt : 4 * unitsInOne < tenTo 400 := by
  decide +kernel

theorem first_digit_le {place digits : Nat} {exponent : Int} (finite : place < magnitudeCount)
    (nonzero : 0 < digits) (rounds : Decimal.roundsTo place ⟨digits, exponent⟩ = true) :
    exponent + digitCount digits ≤ 400 := by
  refine Int.not_lt.mp ?_
  intro beyond
  -- The decimal would be at least 10 ^ 400, which lies beyond the rounding interval of every place.
  obtain ⟨_, upper, _⟩ := (Decimal.roundsTo_iff _ _).mp rounds
  unfold Decimal.numerator Decimal.denominator at upper
  simp only at upper
  have some : 0 < digitCount digits := Nat.length_toDigits_pos
  have large : tenTo 400 * tenTo (-exponent).toNat ≤ digits * tenTo exponent.toNat := by
    calc tenTo 400 * tenTo (-exponent).toNat = tenTo (400 + (-exponent).toNat) := by
          rw [tenTo_add]
      _ ≤ tenTo (digitCount digits - 1 + exponent.toNat) := tenTo_le (by omega)
      _ = tenTo (digitCount digits - 1) * tenTo exponent.toNat := tenTo_add ..
      _ ≤ digits * tenTo exponent.toNat :=
          Nat.mul_le_mul_right _ (tenTo_le_of_digitCount nonzero)
  have bound := Nat.mul_lt_mul_of_pos_right (upperEnd_lt finite) (tenTo_pos (-exponent).toNat)
  have scaled := Nat.mul_le_mul_right unitsInOne large
  have order : 4 * (tenTo 400 * unitsInOne) * tenTo (-exponent).toNat =
      4 * (tenTo 400 * tenTo (-exponent).toNat * unitsInOne) := by ring
  omega

theorem le_first_digit {place digits : Nat} {exponent : Int} (positive : 0 < place)
    (nonzero : 0 < digits) (rounds : Decimal.roundsTo place ⟨digits, exponent⟩ = true) :
    -400 ≤ exponent + digitCount digits := by
  refine Int.not_lt.mp ?_
  intro beyond
  obtain ⟨lower, _, _⟩ := (Decimal.roundsTo_iff _ _).mp rounds
  unfold Decimal.numerator Decimal.denominator at lower
  simp only at lower
  have small : digits * tenTo exponent.toNat * tenTo 400 ≤ tenTo (-exponent).toNat := by
    calc digits * tenTo exponent.toNat * tenTo 400
        ≤ tenTo (digitCount digits) * tenTo exponent.toNat * tenTo 400 :=
          Nat.mul_le_mul_right _ (Nat.mul_le_mul_right _ (Nat.le_of_lt (lt_tenTo_digitCount _)))
      _ = tenTo (digitCount digits + exponent.toNat + 400) := by rw [tenTo_add, tenTo_add]
      _ ≤ tenTo (-exponent).toNat := tenTo_le (by omega)
  have some : 0 < digits * tenTo exponent.toNat := Nat.mul_pos nonzero (tenTo_pos _)
  have bound := Nat.mul_lt_mul_of_pos_left unitsInOne_lt some
  have whole := Nat.mul_le_mul_right (tenTo (-exponent).toNat) (lowerEnd_pos positive)
  rw [Nat.mul_left_comm] at bound
  omega

theorem ofRatio_eq {place : Fin magnitudeCount} {numerator denominator : Nat} (negative : Bool)
    (nearest : nearestPlace numerator denominator = place) :
    Binary64.ofRatio negative numerator denominator = .finite negative place := by
  unfold Binary64.ofRatio
  have bound : nearestPlace numerator denominator < magnitudeCount := by
    rw [nearest]
    exact place.isLt
  rw [dif_pos bound]
  exact congrArg (Binary64.finite negative) (Fin.ext nearest)

theorem zero_of_digits {place : Nat} {exponent : Int}
    (rounds : Decimal.roundsTo place ⟨0, exponent⟩ = true) : place = 0 := by
  by_contra positive
  obtain ⟨lower, _, _⟩ := (Decimal.roundsTo_iff _ _).mp rounds
  have some := Nat.mul_pos (lowerEnd_pos (Nat.pos_of_ne_zero positive))
    (Decimal.denominator_pos ⟨0, exponent⟩)
  simp only [Decimal.numerator, Nat.zero_mul, Nat.mul_zero] at lower
  omega

theorem ofRatio_zero {place : Fin magnitudeCount} (negative : Bool)
    (zero : place.val = 0) : Binary64.ofRatio negative 0 1 = .finite negative place := by
  refine ofRatio_eq negative ?_
  rw [zero]
  exact nearestPlace_eq_of_roundsTo (by decide) roundsTo_zero

/-- A decimal in the rounding interval of a place is read as the magnitude at that place. -/
theorem ofDecimal_eq {place : Fin magnitudeCount} {digits : Nat} {exponent : Int} (negative : Bool)
    (rounds : Decimal.roundsTo place ⟨digits, exponent⟩ = true) :
    Binary64.ofDecimal negative digits exponent = .finite negative place := by
  have read := nearestPlace_eq_of_roundsTo (Decimal.denominator_pos _)
    ((Decimal.roundsTo_iff _ _).mp rounds)
  unfold Decimal.numerator Decimal.denominator at read
  simp only at read
  unfold Binary64.ofDecimal
  split
  next zero =>
    subst zero
    exact ofRatio_zero negative (zero_of_digits rounds)
  next nonzero =>
    have digitsPositive := Nat.pos_of_ne_zero nonzero
    rw [if_neg (Int.not_lt.mpr (first_digit_le place.isLt digitsPositive rounds))]
    split
    next small =>
      refine ofRatio_zero negative ?_
      by_contra positive
      have := le_first_digit (Nat.pos_of_ne_zero positive) digitsPositive rounds
      omega
    next =>
      split
      next nonnegative =>
        rw [show (-exponent).toNat = 0 by omega] at read
        exact ofRatio_eq negative read
      next isNegative =>
        rw [show exponent.toNat = 0 by omega, show tenTo 0 = 1 from rfl, Nat.mul_one] at read
        exact ofRatio_eq negative read

theorem ofDigits_eq (value : Nat) (digits : List Char) :
    ofDigits value digits = Nat.ofDigitChars 10 digits value := by
  simp only [ofDigits, digitValue, Nat.ofDigitChars, Nat.mul_comm]
  rfl

theorem ofDigits_append (value : Nat) (digits more : List Char) :
    ofDigits value (digits ++ more) = ofDigits (ofDigits value digits) more :=
  List.foldl_append

theorem ofDigits_zeros (value count : Nat) :
    ofDigits value (List.replicate count '0') = value * tenTo count := by
  rw [ofDigits_eq, Nat.ofDigitChars_replicate_zero, Nat.mul_comm]
  rfl

theorem ofDigits_digitsOf (number : Nat) : ofDigits 0 (digitsOf number) = number := by
  rw [ofDigits_eq]
  exact Nat.ofDigitChars_ten_toDigits

theorem isDigit_of_mem_digitsOf {number : Nat} {digit : Char} (member : digit ∈ digitsOf number) :
    digit.isDigit = true :=
  Nat.isDigit_of_mem_toDigits (by decide) (by decide) member

theorem digitsOf_ne_nil (number : Nat) : digitsOf number ≠ [] :=
  Nat.toDigits_ne_nil

theorem isDigit_of_mem_zeros {count : Nat} {digit : Char}
    (member : digit ∈ List.replicate count '0') : digit.isDigit = true := by
  rw [List.eq_of_mem_replicate member]
  decide

theorem isDigit_of_mem_padded {count number : Nat} {digit : Char}
    (member : digit ∈ List.replicate count '0' ++ digitsOf number) : digit.isDigit = true := by
  rcases List.mem_append.mp member with fromZeros | fromDigits
  · exact isDigit_of_mem_zeros fromZeros
  · exact isDigit_of_mem_digitsOf fromDigits

theorem isDigit_of_mem_extended {count number : Nat} {digit : Char}
    (member : digit ∈ digitsOf number ++ List.replicate count '0') : digit.isDigit = true :=
  isDigit_of_mem_padded (List.mem_append.mpr (List.mem_append.mp member).symm)

namespace Binary64

theorem unsigned?_whole (negative : Bool) {digits : List Char} (nonempty : digits ≠ [])
    (all : ∀ digit ∈ digits, digit.isDigit = true) :
    unsigned? negative digits = some (ofDecimal negative (ofDigits 0 digits) 0) := by
  have taken : digits.takeWhile Char.isDigit = digits := List.takeWhile_eq_self_iff.mpr all
  have dropped : digits.dropWhile Char.isDigit = [] := List.dropWhile_eq_nil_iff.mpr all
  simp only [unsigned?, taken, dropped, List.append_nil, List.isEmpty_eq_false_iff.mpr nonempty,
    Bool.false_and, exponent?, Option.map_some]
  rfl

theorem unsigned?_point (negative : Bool) {whole fraction : List Char} (nonempty : whole ≠ [])
    (allWhole : ∀ digit ∈ whole, digit.isDigit = true)
    (allFraction : ∀ digit ∈ fraction, digit.isDigit = true) :
    unsigned? negative (whole ++ '.' :: fraction) =
      some (ofDecimal negative (ofDigits 0 (whole ++ fraction)) (-fraction.length)) := by
  have taken : (whole ++ '.' :: fraction).takeWhile Char.isDigit = whole := by
    rw [List.takeWhile_append_of_pos allWhole]
    simp
  have dropped : (whole ++ '.' :: fraction).dropWhile Char.isDigit = '.' :: fraction := by
    rw [List.dropWhile_append_of_pos allWhole]
    rfl
  have takenFraction : fraction.takeWhile Char.isDigit = fraction :=
    List.takeWhile_eq_self_iff.mpr allFraction
  have droppedFraction : fraction.dropWhile Char.isDigit = [] :=
    List.dropWhile_eq_nil_iff.mpr allFraction
  simp only [unsigned?, taken, dropped, takenFraction, droppedFraction,
    List.isEmpty_eq_false_iff.mpr nonempty, Bool.false_and, exponent?, Option.map_some, Int.zero_sub]
  rfl

theorem magnitude?_of_digit (negative : Bool) {first : Char} (rest : List Char)
    (isDigit : first.isDigit = true) :
    magnitude? negative (first :: rest) = unsigned? negative (first :: rest) := by
  have lower : first.toLower = first := by
    refine dif_neg ?_
    simp only [Char.isDigit, Bool.and_eq_true, decide_eq_true_eq] at isDigit
    intro upper
    exact absurd (Nat.le_trans upper.1 isDigit.2) (by decide)
  have unlike : ∀ word : String, ∀ letter letters, word.toList = letter :: letters →
      letter.isDigit = false → String.ofList ((first :: rest).map Char.toLower) ≠ word := by
    intro word letter letters spelled notDigit equal
    have same := congrArg String.toList equal
    rw [String.toList_ofList, spelled, List.map_cons, lower] at same
    rw [(List.cons.inj same).1, notDigit] at isDigit
    contradiction
  unfold magnitude?
  split
  next equal => exact absurd equal (unlike _ 'i' ['n', 'f'] rfl rfl)
  next equal => exact absurd equal (unlike _ 'i' "nfinity".toList rfl rfl)
  next equal => exact absurd equal (unlike _ 'n' ['a', 'n'] rfl rfl)
  next => rfl

end Binary64

structure Decimal.ReadFrom (decimal : Decimal) (text : List Char) : Prop where
  startsWithDigit : ∃ first rest, text = first :: rest ∧ first.isDigit = true
  reads : ∃ read : Decimal, decimal.Equals read ∧
    ∀ negative, Binary64.unsigned? negative text =
      some (Binary64.ofDecimal negative read.digits read.exponent)

theorem startsWithDigit {text : List Char} (nonempty : text ≠ [])
    (all : ∀ digit ∈ text, digit.isDigit = true) (more : List Char) :
    ∃ first rest, text ++ more = first :: rest ∧ first.isDigit = true := by
  cases text with
  | nil => contradiction
  | cons first rest => exact ⟨first, rest ++ more, rfl, all first List.mem_cons_self⟩

theorem Decimal.readFrom_positional (decimal : Decimal) : decimal.ReadFrom decimal.positional := by
  obtain ⟨digits, exponent⟩ := decimal
  unfold positional
  simp only
  split
  next nonnegative =>
    obtain ⟨zeros, equal⟩ := Int.eq_ofNat_of_zero_le nonnegative
    subst equal
    split
    next zero =>
      subst zero
      refine ⟨⟨'0', [], rfl, by decide⟩, ⟨0, 0⟩, ?_, ?_⟩
      · simp [Equals, numerator]
      · intro negative
        refine Binary64.unsigned?_whole negative (by decide) ?_
        intro digit member
        rw [List.mem_singleton.mp member]
        decide
    next =>
      have all : ∀ digit ∈ digitsOf digits ++ List.replicate zeros '0', digit.isDigit = true :=
        fun _ => isDigit_of_mem_extended
      refine ⟨startsWithDigit (digitsOf_ne_nil _) (fun _ => isDigit_of_mem_digitsOf) _,
        ⟨digits * tenTo zeros, 0⟩, ?_, ?_⟩
      · simp [Equals, numerator, denominator, tenTo]
      · intro negative
        have read := Binary64.unsigned?_whole negative
          (List.append_ne_nil_of_left_ne_nil (digitsOf_ne_nil digits) _) all
        rw [ofDigits_append, ofDigits_digitsOf, ofDigits_zeros] at read
        exact read
  next isNegative =>
    obtain ⟨places, equal⟩ : ∃ places : Nat, exponent = -places := ⟨(-exponent).toNat, by omega⟩
    subst equal
    rw [show (-(-(places : Int))).toNat = places by omega]
    have all : ∀ digit ∈ List.replicate (places + 1 - (digitsOf digits).length) '0' ++
        digitsOf digits, digit.isDigit = true := fun _ => isDigit_of_mem_padded
    have value : ofDigits 0 (List.replicate (places + 1 - (digitsOf digits).length) '0' ++
        digitsOf digits) = digits := by
      rw [ofDigits_append, ofDigits_zeros, Nat.zero_mul, ofDigits_digitsOf]
    have long : places < (List.replicate (places + 1 - (digitsOf digits).length) '0' ++
        digitsOf digits).length := by
      rw [List.length_append, List.length_replicate]
      omega
    generalize List.replicate (places + 1 - (digitsOf digits).length) '0' ++ digitsOf digits =
      padded at all value long ⊢
    have wholeDigits : ∀ digit ∈ padded.take (padded.length - places), digit.isDigit = true :=
      fun digit member => all digit (List.mem_of_mem_take member)
    have nonempty : padded.take (padded.length - places) ≠ [] := by
      refine List.ne_nil_of_length_pos ?_
      rw [List.length_take]
      omega
    refine ⟨startsWithDigit nonempty wholeDigits _, ⟨digits, -places⟩, rfl, ?_⟩
    intro negative
    rw [Binary64.unsigned?_point negative nonempty wholeDigits
      fun digit member => all digit (List.mem_of_mem_drop member),
      List.take_append_drop, value, List.length_drop, Nat.sub_sub_self (Nat.le_of_lt long)]

theorem Binary64.ofText?_positional (negative : Bool) {place : Fin magnitudeCount}
    {decimal : Decimal} (rounds : decimal.roundsTo place = true) :
    ofText? (signed negative decimal.positional) = some (finite negative place) := by
  obtain ⟨⟨first, rest, spelled, isDigit⟩, read, same, reads⟩ := decimal.readFrom_positional
  have unsigned : ∀ sign, magnitude? sign (first :: rest) = some (finite sign place) := by
    intro sign
    rw [magnitude?_of_digit sign rest isDigit, ← spelled, reads,
      ofDecimal_eq sign (Decimal.roundsTo_congr same rounds)]
  rw [spelled]
  cases negative with
  | true => exact unsigned true
  | false =>
      refine Eq.trans ?_ (unsigned false)
      show ofText? (first :: rest) = _
      unfold ofText?
      split
      next equal =>
        rw [(List.cons.inj equal).1] at isDigit
        contradiction
      next equal =>
        rw [(List.cons.inj equal).1] at isDigit
        contradiction
      next => rfl

/-- Reading the shown text of a number gives the number, to the bit. -/
theorem Binary64.ofText?_shown (number : Binary64) : ofText? number.shown = some number := by
  cases number with
  | notANumber => rfl
  | infinite negative => cases negative <;> rfl
  | finite negative place => exact ofText?_positional negative (shortest_roundsTo place)

theorem unitsInOne_pos : 0 < unitsInOne :=
  Nat.two_pow_pos 1074

theorem roundHalfEven_mul {denominator : Nat} (positive : 0 < denominator) (whole : Nat) :
    roundHalfEven (whole * denominator) denominator = whole := by
  refine roundHalfEven_eq positive ?_ ?_ ?_ <;> omega

theorem Binary64.ofText?_fixed {number : Binary64} (whole : number.isWhole = true) :
    ofText? (number.fixed 1) = some number := by
  cases number with
  | notANumber => contradiction
  | infinite negative => contradiction
  | finite negative place =>
      have divides : unitsInOne ∣ units place := Nat.dvd_of_mod_eq_zero (by simpa [isWhole] using whole)
      obtain ⟨count, equal⟩ := divides
      have rounded : roundHalfEven (units place * tenTo 1) unitsInOne = count * tenTo 1 := by
        rw [equal, Nat.mul_assoc, Nat.mul_comm]
        exact roundHalfEven_mul unitsInOne_pos _
      show ofText? (signed negative (fixedRatio (units place) unitsInOne 1)) = _
      unfold fixedRatio
      rw [rounded]
      show ofText? (signed negative (Decimal.positional ⟨count * tenTo 1, -1⟩)) = _
      refine ofText?_positional negative ((Decimal.roundsTo_iff _ _).mpr ?_)
      refine roundsTo_of_eq (Decimal.denominator_pos _) ?_
      show count * tenTo 1 * tenTo 0 * unitsInOne = units place * tenTo 1
      rw [equal, show tenTo 0 = 1 from rfl]
      ring

end AutoReply.Number
