import Mathlib.Tactic.Linarith
import Mathlib.Tactic.Ring
import AutoReply.Number.Shortest

/-!
Rounding a quotient to the nearest magnitude: every quotient in the rounding interval of a place is
taken to that place.
-/

namespace AutoReply.Number

theorem place_eq (place : Nat) : place = scale place * leadingBit + significand place := by
  have divided := Nat.div_add_mod place leadingBit
  unfold scale significand
  split
  next small => simp
  next large =>
    have twice : 2 ≤ place / leadingBit :=
      (Nat.le_div_iff_mul_le (by decide)).mpr (Nat.le_of_not_lt large)
    obtain ⟨more, equal⟩ := Nat.exists_eq_add_of_le twice
    rw [equal] at divided ⊢
    rw [show 2 + more - 1 = more + 1 by omega]
    nlinarith

theorem significand_lt (place : Nat) : significand place < 2 * leadingBit := by
  unfold significand
  split
  next small => exact small
  next => have := Nat.mod_lt place (show 0 < leadingBit by decide); omega

theorem leadingBit_le_significand {place : Nat} (scaled : 0 < scale place) :
    leadingBit ≤ significand place := by
  unfold scale at scaled
  unfold significand
  split at scaled
  next => contradiction
  next large => simp [large]

/-- The quotient lies in the rounding interval of a place; the ends belong to it when the
significand is even. -/
def RoundsTo (place numerator denominator : Nat) : Prop :=
  lowerEnd place * denominator ≤ 4 * (numerator * unitsInOne) ∧
    4 * (numerator * unitsInOne) ≤ upperEnd place * denominator ∧
    (significand place % 2 = 1 →
      lowerEnd place * denominator ≠ 4 * (numerator * unitsInOne) ∧
        4 * (numerator * unitsInOne) ≠ upperEnd place * denominator)

theorem roundHalfEven_eq {numerator denominator whole : Nat} (positive : 0 < denominator)
    (lower : 2 * (whole * denominator) ≤ 2 * numerator + denominator)
    (upper : 2 * numerator ≤ 2 * (whole * denominator) + denominator)
    (odd : whole % 2 = 1 → 2 * (whole * denominator) ≠ 2 * numerator + denominator ∧
      2 * numerator ≠ 2 * (whole * denominator) + denominator) :
    roundHalfEven numerator denominator = whole := by
  have divided := Nat.div_add_mod numerator denominator
  have rest := Nat.mod_lt numerator positive
  unfold roundHalfEven
  generalize numerator / denominator = quotient at divided ⊢
  generalize numerator % denominator = remainder at divided rest ⊢
  rw [Nat.mul_comm] at divided
  have atLeast : quotient ≤ whole := by
    by_contra beyond
    have := Nat.mul_le_mul_right denominator (show whole + 1 ≤ quotient by omega)
    rw [Nat.add_mul] at this
    omega
  have atMost : whole ≤ quotient + 1 := by
    by_contra beyond
    have := Nat.mul_le_mul_right denominator (show quotient + 2 ≤ whole by omega)
    rw [Nat.add_mul] at this
    omega
  rcases Nat.eq_or_lt_of_le atLeast with same | above
  · subst same
    rw [if_neg]
    simp only [Bool.or_eq_true, decide_eq_true_eq, Bool.and_eq_true, beq_iff_eq]
    omega
  · have next : whole = quotient + 1 := by omega
    subst next
    rw [Nat.add_mul] at lower upper odd
    rw [if_pos]
    simp only [Bool.or_eq_true, decide_eq_true_eq, Bool.and_eq_true, beq_iff_eq]
    omega

theorem shift_eq {quotient shift : Nat} (upper : quotient < 2 ^ (53 + shift))
    (lower : shift = 0 ∨ 2 ^ (52 + shift) ≤ quotient) :
    Nat.log2 quotient + 1 - 53 = shift := by
  rcases Nat.eq_zero_or_pos quotient with zero | positive
  · subst zero
    rcases lower with none | some
    · subst none
      rfl
    · have := Nat.two_pow_pos (52 + shift)
      omega
  · have nonzero : quotient ≠ 0 := Nat.ne_of_gt positive
    have below := (Nat.log2_lt nonzero).mpr upper
    rcases lower with none | some
    · omega
    · have above := (Nat.le_log2 nonzero).mpr some
      omega

theorem nearestPlace_eq {numerator denominator shift whole : Nat} (positive : 0 < denominator)
    (upper : numerator * unitsInOne < 2 * leadingBit * 2 ^ shift * denominator)
    (lower : shift = 0 ∨
      leadingBit * 2 ^ shift * denominator ≤ numerator * unitsInOne)
    (rounded : roundHalfEven (numerator * unitsInOne) (denominator * 2 ^ shift) = whole) :
    nearestPlace numerator denominator = shift * leadingBit + whole := by
  have binade : Nat.log2 (numerator * unitsInOne / denominator) + 1 - 53 = shift := by
    refine shift_eq ?_ ?_
    · rw [Nat.div_lt_iff_lt_mul positive, Nat.pow_add]
      exact upper
    · rcases lower with none | some
      · exact .inl none
      · right
        rw [Nat.le_div_iff_mul_le positive, Nat.pow_add]
        exact some
  simp only [nearestPlace, binade]
  rw [show Nat.pow 2 shift = 2 ^ shift from rfl, rounded]

/-- The reals below the first magnitude of a binade lie half as far apart. -/
theorem nearestPlace_below_binade {numerator denominator shift : Nat}
    (positive : 0 < denominator)
    (lower : (4 * leadingBit - 1) * 2 ^ (shift + 1) * denominator ≤ 4 * (numerator * unitsInOne))
    (below : numerator * unitsInOne < leadingBit * 2 ^ (shift + 1) * denominator) :
    nearestPlace numerator denominator = (shift + 1) * leadingBit + leadingBit := by
  have large : 0 < leadingBit := by decide
  have power : 2 ^ (shift + 1) = 2 * 2 ^ shift := by rw [Nat.pow_succ, Nat.mul_comm]
  have width : 0 < denominator * 2 ^ shift := Nat.mul_pos positive (Nat.two_pow_pos shift)
  have half : leadingBit * 2 ^ (shift + 1) * denominator =
      2 * (leadingBit * (denominator * 2 ^ shift)) := by rw [power]; ring
  have doubled : leadingBit * 2 ^ shift * denominator =
      leadingBit * (denominator * 2 ^ shift) := by ring
  have floor : (4 * leadingBit - 1) * 2 ^ (shift + 1) * denominator +
      2 * (denominator * 2 ^ shift) = 8 * (leadingBit * (denominator * 2 ^ shift)) := by
    rw [power]
    obtain ⟨more, equal⟩ := Nat.exists_eq_add_of_le (show 1 ≤ 4 * leadingBit by decide)
    have lead : 8 * (leadingBit * (denominator * 2 ^ shift)) =
        2 * (4 * leadingBit) * (denominator * 2 ^ shift) := by ring
    rw [lead, equal, Nat.add_sub_cancel_left]
    ring
  have step : denominator * 2 ^ shift ≤ leadingBit * (denominator * 2 ^ shift) :=
    Nat.le_mul_of_pos_left _ large
  have rounded : roundHalfEven (numerator * unitsInOne) (denominator * 2 ^ shift) =
      2 * leadingBit := by
    have twice : 2 * (2 * leadingBit * (denominator * 2 ^ shift)) =
        4 * (leadingBit * (denominator * 2 ^ shift)) := by ring
    refine roundHalfEven_eq width ?_ ?_ ?_
    · omega
    · omega
    · intro odd
      omega
  rw [nearestPlace_eq positive ?_ ?_ rounded]
  · ring
  · have : 2 * leadingBit * 2 ^ shift * denominator =
        2 * (leadingBit * (denominator * 2 ^ shift)) := by ring
    omega
  · right
    omega

theorem nearestPlace_in_binade {place numerator denominator : Nat} (positive : 0 < denominator)
    (lower : 4 * (significand place * (2 ^ scale place * denominator)) ≤
      4 * (numerator * unitsInOne) + 2 * (2 ^ scale place * denominator))
    (upper : 4 * (numerator * unitsInOne) ≤
      4 * (significand place * (2 ^ scale place * denominator)) +
        2 * (2 ^ scale place * denominator))
    (odd : significand place % 2 = 1 →
      4 * (significand place * (2 ^ scale place * denominator)) ≠
          4 * (numerator * unitsInOne) + 2 * (2 ^ scale place * denominator) ∧
        4 * (numerator * unitsInOne) ≠
          4 * (significand place * (2 ^ scale place * denominator)) +
            2 * (2 ^ scale place * denominator))
    (reached : scale place = 0 ∨
      leadingBit * (2 ^ scale place * denominator) ≤ numerator * unitsInOne) :
    nearestPlace numerator denominator = place := by
  have size := significand_lt place
  have width : 0 < 2 ^ scale place * denominator :=
    Nat.mul_pos (Nat.two_pow_pos _) positive
  have rounded : roundHalfEven (numerator * unitsInOne) (denominator * 2 ^ scale place) =
      significand place := by
    rw [Nat.mul_comm denominator]
    refine roundHalfEven_eq width ?_ ?_ ?_
    · omega
    · omega
    · intro isOdd
      have := odd isOdd
      omega
  have top : numerator * unitsInOne < 2 * leadingBit * (2 ^ scale place * denominator) := by
    rcases Nat.lt_or_ge (significand place + 1) (2 * leadingBit) with small | last
    · have := Nat.mul_le_mul_right (2 ^ scale place * denominator) (Nat.le_of_lt small)
      rw [Nat.add_mul] at this
      omega
    · have isLast : significand place + 1 = 2 * leadingBit := by omega
      have isOdd : significand place % 2 = 1 := by omega
      have := odd isOdd
      rw [← isLast, Nat.add_mul]
      omega
  rw [nearestPlace_eq positive ?_ ?_ rounded]
  · exact (place_eq place).symm
  · rw [Nat.mul_assoc]
    exact top
  · rcases reached with none | some
    · exact .inl none
    · right
      rw [Nat.mul_assoc]
      exact some

/-- A quotient in the rounding interval of a place is rounded to that place. -/
theorem nearestPlace_eq_of_roundsTo {place numerator denominator : Nat}
    (positive : 0 < denominator) (rounds : RoundsTo place numerator denominator) :
    nearestPlace numerator denominator = place := by
  obtain ⟨lower, upper, odd⟩ := rounds
  have unit : units place * denominator =
      significand place * (2 ^ scale place * denominator) := Nat.mul_assoc ..
  have high : upperEnd place * denominator =
      4 * (significand place * (2 ^ scale place * denominator)) +
        2 * (2 ^ scale place * denominator) := by
    rw [← unit]
    unfold upperEnd spacing
    rw [show Nat.pow 2 (scale place) = 2 ^ scale place from rfl]
    ring
  rw [high] at upper odd
  have single : spacing place * denominator = 2 ^ scale place * denominator := rfl
  -- Only the interval of the first magnitude of a binade reaches into the binade below.
  by_cases first : significand place = leadingBit ∧ 0 < scale place
  · have low : lowerEnd place * denominator =
        4 * (significand place * (2 ^ scale place * denominator)) -
          2 ^ scale place * denominator := by
      rw [← unit, ← single, lowerEnd, if_pos first, Nat.sub_mul, Nat.mul_assoc]
    rw [low] at lower odd
    obtain ⟨isFirst, scaled⟩ := first
    rcases Nat.lt_or_ge (numerator * unitsInOne)
      (leadingBit * (2 ^ scale place * denominator)) with below | above
    · obtain ⟨shift, next⟩ := Nat.exists_eq_succ_of_ne_zero (Nat.ne_of_gt scaled)
      have placed := place_eq place
      rw [isFirst, next] at lower placed
      rw [next, ← Nat.mul_assoc] at below
      rw [placed]
      refine nearestPlace_below_binade positive ?_ below
      have spread : (4 * leadingBit - 1) * 2 ^ (shift + 1) * denominator =
          4 * (leadingBit * (2 ^ (shift + 1) * denominator)) - 2 ^ (shift + 1) * denominator := by
        rw [Nat.mul_assoc, Nat.sub_mul, Nat.one_mul, Nat.mul_assoc]
      rw [spread]
      exact lower
    · refine nearestPlace_in_binade positive ?_ upper ?_ (.inr above)
      · omega
      · intro isOdd
        rw [isFirst] at isOdd
        exact absurd isOdd (by decide)
  · have low : lowerEnd place * denominator =
        4 * (significand place * (2 ^ scale place * denominator)) -
          2 * (2 ^ scale place * denominator) := by
      rw [← unit, ← single, lowerEnd, if_neg first, Nat.sub_mul, Nat.mul_assoc, Nat.mul_assoc]
    rw [low] at lower odd
    refine nearestPlace_in_binade positive ?_ upper ?_ ?_
    · omega
    · intro isOdd
      have := odd isOdd
      omega
    · rcases Nat.eq_zero_or_pos (scale place) with none | scaled
      · exact .inl none
      · right
        have atLeast := leadingBit_le_significand scaled
        have inside : leadingBit + 1 ≤ significand place := by omega
        have := Nat.mul_le_mul_right (2 ^ scale place * denominator) inside
        rw [Nat.add_mul] at this
        omega

end AutoReply.Number
