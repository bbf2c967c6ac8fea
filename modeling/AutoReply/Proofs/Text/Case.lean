import AutoReply.Text.Case

/-!
Which characters a letter is a case variant of, read backwards from the tables.
-/

namespace AutoReply.Text

/-- The point whose image in a run is `point`, if there is one. -/
def CaseRun.source? (run : CaseRun) (point : Nat) : Option Nat :=
  if run.image ≤ point ∧ point ≤ run.image + (run.last - run.first) then
    some (run.first + (point - run.image))
  else none

theorem CaseRun.source?_imageOf {run : CaseRun} {point : Nat} (inside : run.has point = true) :
    run.source? (run.imageOf point) = some point := by
  simp only [has, Bool.and_eq_true, decide_eq_true_eq] at inside
  unfold source? imageOf
  rw [if_pos (by omega)]
  congr 1
  omega

def variantSources (point : Nat) : List Nat :=
  (caseGroups.filter fun group => group.contains point).flatten.filter (· != point) ++
    (casePairs ++ casePairs.map CaseRun.swap).filterMap fun run => run.source? point

theorem mem_variantSources {point other : Nat} (variant : other ∈ caseVariants point) :
    point ∈ variantSources other := by
  unfold caseVariants at variant
  unfold variantSources
  rw [List.mem_append]
  split at variant
  next group found =>
    have has : point ∈ group := by simpa using List.find?_some found
    obtain ⟨inside, different⟩ := List.mem_filter.mp variant
    refine .inl (List.mem_filter.mpr ⟨List.mem_flatten.mpr ⟨group, ?_, has⟩, ?_⟩)
    · exact List.mem_filter.mpr ⟨List.mem_of_find?_eq_some found, by simpa using inside⟩
    · exact bne_iff_ne.mpr (bne_iff_ne.mp different).symm
  next =>
    refine .inr (List.mem_filterMap.mpr ?_)
    split at variant
    next run found =>
      have has : run.has point = true := by simpa using List.find?_some found
      refine ⟨run, List.mem_append_left _ (List.mem_of_find?_eq_some found), ?_⟩
      rw [List.mem_singleton.mp variant]
      exact CaseRun.source?_imageOf has
    next =>
      split at variant
      next run found =>
        have has : run.swap.has point = true := by simpa using List.find?_some found
        refine ⟨run.swap, List.mem_append_right _ (List.mem_map_of_mem
          (List.mem_of_find?_eq_some found)), ?_⟩
        rw [List.mem_singleton.mp variant]
        exact CaseRun.source?_imageOf has
      next => cases variant

theorem toNat_toLower (character : Char) :
    character.toLower.toNat =
      if 65 ≤ character.toNat ∧ character.toNat ≤ 90 then character.toNat + 32
      else character.toNat := by
  unfold Char.toLower
  split
  next capital =>
    have bounds : 65 ≤ character.toNat ∧ character.toNat ≤ 90 := capital
    rw [if_pos bounds]
    show (character.val + ('a'.val - 'A'.val)).toNat = character.val.toNat + 32
    rw [UInt32.toNat_add, show ('a'.val - 'A'.val).toNat = 32 by decide]
    exact Nat.mod_eq_of_lt (by have := bounds.2; unfold Char.toNat at this; omega)
  next other => exact (if_neg other).symm

theorem toNat_toUpper {letter : Char} (small : 97 ≤ letter.toNat ∧ letter.toNat ≤ 122) :
    letter.toUpper.toNat = letter.toNat - 32 := by
  have inside : 'a'.val ≤ letter.val ∧ letter.val ≤ 'z'.val := small
  unfold Char.toUpper
  rw [dif_pos inside]
  show (letter.val + ('A'.val - 'a'.val)).toNat = letter.val.toNat - 32
  rw [UInt32.toNat_add, show ('A'.val - 'a'.val).toNat = 4294967264 by decide]
  unfold Char.toNat at small
  omega

def plainLetters : List Char := "abcdefghijlmnopqrtuvwxyz".toList

theorem plainLetters_spec {letter : Char} (member : letter ∈ plainLetters) :
    (97 ≤ letter.toNat ∧ letter.toNat ≤ 122) ∧
      variantSources letter.toNat = [letter.toUpper.toNat] ∧
        letter.toNat ∈ caseVariants letter.toUpper.toNat := by
  have all : plainLetters.all (fun letter => decide ((97 ≤ letter.toNat ∧ letter.toNat ≤ 122) ∧
      variantSources letter.toNat = [letter.toUpper.toNat] ∧
        letter.toNat ∈ caseVariants letter.toUpper.toNat)) = true := by
    decide +kernel
  exact of_decide_eq_true (List.all_eq_true.mp all letter member)

def plainMarks : List Char := " .'‘ʼ’".toList

theorem plainMarks_spec {mark : Char} (member : mark ∈ plainMarks) :
    (mark.toNat < 65 ∨ 122 < mark.toNat) ∧ variantSources mark.toNat = [] := by
  have all : plainMarks.all (fun mark => decide
      ((mark.toNat < 65 ∨ 122 < mark.toNat) ∧ variantSources mark.toNat = [])) = true := by
    decide
  exact of_decide_eq_true (List.all_eq_true.mp all mark member)

theorem toLower_eq_mark_iff {mark : Char} (known : mark ∈ plainMarks) (character : Char) :
    character.toLower = mark ↔ character = mark := by
  have unlettered := (plainMarks_spec known).1
  rw [← Char.toNat_inj, ← Char.toNat_inj, toNat_toLower]
  split <;> omega

/-- When case does not count, a plain character stands for itself and its capital. -/
theorem variant_iff_toLower {plain : Char} (known : plain ∈ plainLetters ++ plainMarks)
    (character : Char) :
    (character.toNat = plain.toNat ∨ plain.toNat ∈ caseVariants character.toNat) ↔
      character.toLower = plain := by
  rw [← Char.toNat_inj, toNat_toLower]
  rcases List.mem_append.mp known with letter | mark
  · obtain ⟨small, sources, capital⟩ := plainLetters_spec letter
    have variants : plain.toNat ∈ caseVariants character.toNat ↔
        character.toNat = plain.toUpper.toNat := by
      refine ⟨fun variant => ?_, fun same => same ▸ capital⟩
      have source := mem_variantSources variant
      rwa [sources, List.mem_singleton] at source
    rw [variants, toNat_toUpper small]
    split <;> omega
  · obtain ⟨unlettered, sources⟩ := plainMarks_spec mark
    have none : plain.toNat ∉ caseVariants character.toNat := by
      intro variant
      have source := mem_variantSources variant
      rw [sources] at source
      cases source
    simp only [none, or_false]
    split <;> omega

end AutoReply.Text
