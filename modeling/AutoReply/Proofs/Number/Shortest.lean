import AutoReply.Proofs.Number.Rounding

/-!
The shortest decimal of a place lies in its rounding interval, so reading it finds the place again.
-/

namespace AutoReply.Number

def Decimal.numerator (decimal : Decimal) : Nat :=
  decimal.digits * tenTo decimal.exponent.toNat

def Decimal.denominator (decimal : Decimal) : Nat :=
  tenTo (-decimal.exponent).toNat

/-- Two decimals are the same number. -/
def Decimal.Equals (left right : Decimal) : Prop :=
  left.numerator * right.denominator = right.numerator * left.denominator

theorem tenTo_pos (exponent : Nat) : 0 < tenTo exponent :=
  Nat.pow_pos (by decide)

theorem tenTo_succ (exponent : Nat) : tenTo (exponent + 1) = 10 * tenTo exponent := by
  rw [Nat.mul_comm]
  rfl

theorem tenTo_add (left right : Nat) : tenTo (left + right) = tenTo left * tenTo right :=
  Nat.pow_add 10 left right

theorem tenTo_le {left right : Nat} (le : left ≤ right) : tenTo left ≤ tenTo right :=
  Nat.pow_le_pow_right (by decide) le

theorem Decimal.denominator_pos (decimal : Decimal) : 0 < decimal.denominator :=
  tenTo_pos _

theorem Decimal.quarters_eq (decimal : Decimal) :
    decimal.quarters = (decimal.numerator * quartersInOne, decimal.denominator) := by
  unfold quarters numerator denominator
  split
  next nonnegative =>
    rw [show (-decimal.exponent).toNat = 0 by omega]
    rfl
  next negative =>
    rw [show decimal.exponent.toNat = 0 by omega]
    simp [tenTo]

theorem quartersInOne_mul (number : Nat) :
    number * quartersInOne = 4 * (number * unitsInOne) := by
  unfold quartersInOne
  ring

theorem Decimal.roundsTo_iff (place : Nat) (decimal : Decimal) :
    decimal.roundsTo place = true ↔ RoundsTo place decimal.numerator decimal.denominator := by
  unfold roundsTo RoundsTo
  rw [quarters_eq]
  simp only [quartersInOne_mul]
  split
  next even =>
    simp only [Bool.and_eq_true, decide_eq_true_eq]
    omega
  next odd =>
    simp only [Bool.and_eq_true, decide_eq_true_eq]
    omega

section

variable {numerator denominator numerator' denominator' : Nat}

theorem crossed_le {bound : Nat} (positive : 0 < denominator)
    (same : numerator * denominator' = numerator' * denominator)
    (le : bound * denominator ≤ numerator) : bound * denominator' ≤ numerator' := by
  refine Nat.le_of_mul_le_mul_right ?_ positive
  rw [← same, Nat.mul_right_comm]
  exact Nat.mul_le_mul_right _ le

theorem le_crossed {bound : Nat} (positive : 0 < denominator)
    (same : numerator * denominator' = numerator' * denominator)
    (le : numerator ≤ bound * denominator) : numerator' ≤ bound * denominator' := by
  refine Nat.le_of_mul_le_mul_right ?_ positive
  rw [← same, Nat.mul_right_comm bound]
  exact Nat.mul_le_mul_right _ le

theorem RoundsTo.congr {place : Nat} (rounds : RoundsTo place numerator denominator)
    (positive : 0 < denominator) (positive' : 0 < denominator')
    (same : numerator * denominator' = numerator' * denominator) :
    RoundsTo place numerator' denominator' := by
  have scaled : 4 * (numerator * unitsInOne) * denominator' =
      4 * (numerator' * unitsInOne) * denominator := by
    calc 4 * (numerator * unitsInOne) * denominator'
        = 4 * unitsInOne * (numerator * denominator') := by ring
      _ = 4 * (numerator' * unitsInOne) * denominator := by rw [same]; ring
  obtain ⟨lower, upper, odd⟩ := rounds
  refine ⟨crossed_le positive scaled lower, le_crossed positive scaled upper, ?_⟩
  intro isOdd
  obtain ⟨notLower, notUpper⟩ := odd isOdd
  constructor
  · intro equal
    have := le_crossed positive' scaled.symm (Nat.le_of_eq equal.symm)
    omega
  · intro equal
    have := crossed_le positive' scaled.symm (Nat.le_of_eq equal.symm)
    omega

end

theorem Decimal.roundsTo_congr {place : Nat} {left right : Decimal} (same : left.Equals right)
    (rounds : left.roundsTo place = true) : right.roundsTo place = true := by
  rw [roundsTo_iff] at rounds ⊢
  exact rounds.congr left.denominator_pos right.denominator_pos same

theorem Decimal.equals_shift (digits : Nat) (exponent : Int) :
    Equals ⟨10 * digits, exponent⟩ ⟨digits, exponent + 1⟩ := by
  unfold Equals numerator denominator
  simp only
  rcases Int.lt_or_le exponent 0 with negative | nonnegative
  · obtain ⟨places, equal⟩ : ∃ places : Nat, exponent = -(places + 1) :=
      ⟨(-exponent).toNat - 1, by omega⟩
    subst equal
    rw [show (-((places : Int) + 1)).toNat = 0 by omega,
      show (-((places : Int) + 1) + 1).toNat = 0 by omega,
      show (-(-((places : Int) + 1) + 1)).toNat = places by omega,
      show (-(-((places : Int) + 1))).toNat = places + 1 by omega, tenTo_succ]
    ring
  · obtain ⟨zeros, equal⟩ := Int.eq_ofNat_of_zero_le nonnegative
    subst equal
    rw [show ((zeros : Int) + 1).toNat = zeros + 1 by omega,
      show (zeros : Int).toNat = zeros by omega,
      show (-((zeros : Int) + 1)).toNat = 0 by omega,
      show (-(zeros : Int)).toNat = 0 by omega, tenTo_succ]
    ring

theorem Decimal.roundsTo_strip {place : Nat} : ∀ (fuel : Nat) (decimal : Decimal),
    decimal.roundsTo place = true → (decimal.strip fuel).roundsTo place = true := by
  intro fuel
  induction fuel with
  | zero =>
      intro decimal rounds
      exact rounds
  | succ fuel ih =>
      intro decimal rounds
      unfold strip
      split
      next trailing =>
        refine ih _ (roundsTo_congr (equals_shift _ _) ?_)
        rw [Nat.mul_div_cancel' (Nat.dvd_of_mod_eq_zero trailing.2)]
        exact rounds
      next => exact rounds

theorem besideQuotient_roundsTo {place numerator denominator : Nat} {exponent : Int}
    {decimal : Decimal} (found : besideQuotient place exponent numerator denominator = some decimal) :
    decimal.roundsTo place = true := by
  unfold besideQuotient at found
  simp only at found
  split at found
  next fromBelow fromAbove =>
    rw [← Option.some.inj found]
    split
    · exact fromAbove
    · exact fromBelow
  next fromBelow _ =>
    rw [← Option.some.inj found]
    exact fromBelow
  next _ fromAbove =>
    rw [← Option.some.inj found]
    exact fromAbove
  next => contradiction

theorem candidate_roundsTo {place length : Nat} {decimal : Decimal}
    (found : candidate place length = some decimal) : decimal.roundsTo place = true :=
  besideQuotient_roundsTo found

theorem spacing_pos (place : Nat) : 0 < spacing place :=
  Nat.two_pow_pos _

/-- The magnitude behind the one at a place. -/
theorem units_succ (place : Nat) : units (place + 1) = units place + spacing place := by
  have here := place_eq place
  have next := place_eq (place + 1)
  have bound := significand_lt place
  have nextBound := significand_lt (place + 1)
  have normal : 0 < scale place → leadingBit ≤ significand place := leadingBit_le_significand
  have nextNormal : 0 < scale (place + 1) → leadingBit ≤ significand (place + 1) :=
    leadingBit_le_significand
  unfold units spacing
  have steps : scale (place + 1) = scale place ∧ significand (place + 1) = significand place + 1 ∨
      scale (place + 1) = scale place + 1 ∧ significand (place + 1) = leadingBit ∧
        significand place + 1 = 2 * leadingBit := by
    simp only [show leadingBit = 4503599627370496 from rfl] at *
    omega
  rcases steps with ⟨scaled, grown⟩ | ⟨scaled, first, last⟩
  · rw [scaled, grown, Nat.succ_mul]
  · have power : Nat.pow 2 (scale place + 1) = 2 * Nat.pow 2 (scale place) := Nat.pow_succ'
    rw [scaled, first, power, ← Nat.succ_mul, Nat.succ_eq_add_one, last]
    ring

theorem units_strictMono : StrictMono units :=
  strictMono_nat_of_lt_succ fun place => by
    rw [units_succ]
    exact Nat.lt_add_of_pos_right (spacing_pos place)

theorem spacing_le_units {place : Nat} (positive : 0 < place) : spacing place ≤ units place := by
  refine Nat.le_mul_of_pos_left _ ?_
  have placed := place_eq place
  rcases Nat.eq_zero_or_pos (scale place) with none | scaled
  · rw [none] at placed
    omega
  · have := leadingBit_le_significand scaled
    exact Nat.lt_of_lt_of_le (by decide) this

theorem lowerEnd_lt {place : Nat} (positive : 0 < place) : lowerEnd place < 4 * units place := by
  have inUnits := spacing_le_units positive
  have := spacing_pos place
  unfold lowerEnd
  split <;> omega

theorem lowerEnd_pos {place : Nat} (positive : 0 < place) : 0 < lowerEnd place := by
  have inUnits := spacing_le_units positive
  have := spacing_pos place
  unfold lowerEnd
  split <;> omega

theorem lt_upperEnd (place : Nat) : 4 * units place < upperEnd place := by
  have := spacing_pos place
  unfold upperEnd
  omega

theorem lowerEnd_le (place : Nat) : lowerEnd place ≤ 4 * units place := by
  unfold lowerEnd
  split <;> omega

theorem roundsTo_of_eq {place numerator denominator : Nat} (positive : 0 < denominator)
    (equal : numerator * unitsInOne = units place * denominator) :
    RoundsTo place numerator denominator := by
  have exact : 4 * (numerator * unitsInOne) = 4 * units place * denominator := by
    rw [equal, Nat.mul_assoc]
  have low := Nat.mul_le_mul_right denominator (lowerEnd_le place)
  have high := Nat.mul_lt_mul_of_pos_right (lt_upperEnd place) positive
  rw [← exact] at low high
  refine ⟨low, Nat.le_of_lt high, ?_⟩
  intro odd
  have nonzero : 0 < place := by
    refine Nat.pos_of_ne_zero ?_
    intro zero
    subst zero
    exact absurd odd (by decide)
  have below := Nat.mul_lt_mul_of_pos_right (lowerEnd_lt nonzero) positive
  rw [← exact] at below
  exact ⟨Nat.ne_of_lt below, Nat.ne_of_lt high⟩

theorem tenTo_eq (exponent : Nat) : tenTo exponent = Nat.pow 5 exponent * Nat.pow 2 exponent :=
  Nat.mul_pow 5 2 exponent

theorem fives_roundsTo {place exponent : Nat} (one : unitsInOne = Nat.pow 2 exponent) :
    Decimal.roundsTo place ⟨units place * Nat.pow 5 exponent, -exponent⟩ = true := by
  rw [Decimal.roundsTo_iff]
  refine roundsTo_of_eq (Decimal.denominator_pos _) ?_
  unfold Decimal.numerator Decimal.denominator
  rw [show (-(exponent : Int)).toNat = 0 by omega,
    show (-(-(exponent : Int))).toNat = exponent by omega, show tenTo 0 = 1 from rfl, one,
    tenTo_eq exponent]
  ring

theorem exactDecimal_roundsTo (place : Nat) : (exactDecimal place).roundsTo place = true :=
  @fives_roundsTo place 1074 rfl

theorem roundsTo_zero : RoundsTo 0 0 1 := by
  refine roundsTo_of_eq (by decide) ?_
  rw [show units 0 = 0 by decide, Nat.zero_mul, Nat.zero_mul]

/-- The shortest decimal of a place rounds to that place. -/
theorem shortest_roundsTo (place : Nat) : (shortest place).roundsTo place = true := by
  unfold shortest
  split
  next zero =>
    subst zero
    rw [Decimal.roundsTo_iff]
    exact roundsTo_zero
  next =>
    refine Decimal.roundsTo_strip _ _ ?_
    cases found : (List.range 17).findSome? fun index => candidate place (index + 1) with
    | none => exact exactDecimal_roundsTo place
    | some decimal =>
        obtain ⟨index, _, candidateFound⟩ := List.exists_of_findSome?_eq_some found
        exact candidate_roundsTo candidateFound

end AutoReply.Number
