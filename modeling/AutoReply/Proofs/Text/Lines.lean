import AutoReply.Proofs.Text.Words

/-!
Where a text contains another, and what its lines begin with.
-/

namespace AutoReply.Text

theorem contains_iff (phrase text : List Char) :
    contains phrase text = true ↔ phrase <:+: text := by
  induction text with
  | nil => simp [contains]
  | cons character rest ih =>
      rw [contains, Bool.or_eq_true, ih, List.isPrefixOf_iff_prefix, List.infix_cons_iff]

variable {test : Char → Bool} {first : List Char} {others : List (List Char)}

/-- The first piece begins where the text does, and every other piece behind a mark. -/
structure Pieces (test : Char → Bool) (text first : List Char) (others : List (List Char)) :
    Prop where
  first : ∀ inside, inside <+: first ↔
    ∃ after, text = inside ++ after ∧ ∀ character ∈ inside, test character = false
  others : ∀ inside, (∃ piece ∈ others, inside <+: piece) ↔
    ∃ before mark after, text = before ++ mark :: (inside ++ after) ∧ test mark = true ∧
      ∀ character ∈ inside, test character = false

theorem Pieces.mark {mark : Char} {rest : List Char} (marks : test mark = true)
    (pieces : Pieces test rest first others) : Pieces test (mark :: rest) [] (first :: others) where
  first inside := by
    constructor
    · intro empty
      rw [List.prefix_nil] at empty
      exact ⟨mark :: rest, by simp [empty], by simp [empty]⟩
    · rintro ⟨after, same, clean⟩
      cases inside with
      | nil => exact List.nil_prefix
      | cons character inside =>
          rw [List.cons_append, List.cons.injEq] at same
          rw [same.1, clean character List.mem_cons_self] at marks
          cases marks
  others inside := by
    simp only [List.mem_cons, exists_eq_or_imp, pieces.first, pieces.others]
    constructor
    · rintro (⟨after, rfl, clean⟩ | ⟨before, other, after, rfl, marksOther, clean⟩)
      · exact ⟨[], mark, after, rfl, marks, clean⟩
      · exact ⟨mark :: before, other, after, rfl, marksOther, clean⟩
    · rintro ⟨before, other, after, same, marksOther, clean⟩
      cases before with
      | nil =>
          cases same
          exact .inl ⟨after, rfl, clean⟩
      | cons character before =>
          cases same
          exact .inr ⟨before, other, after, rfl, marksOther, clean⟩

theorem Pieces.plain {character : Char} {rest : List Char} (plain : test character = false)
    (pieces : Pieces test rest first others) :
    Pieces test (character :: rest) (character :: first) others where
  first inside := by
    cases inside with
    | nil => simp
    | cons other inside =>
        rw [List.cons_prefix_cons, pieces.first]
        constructor
        · rintro ⟨rfl, after, rfl, clean⟩
          exact ⟨after, rfl, List.forall_mem_cons.mpr ⟨plain, clean⟩⟩
        · rintro ⟨after, same, clean⟩
          cases same
          exact ⟨rfl, after, rfl, (List.forall_mem_cons.mp clean).2⟩
  others inside := by
    rw [pieces.others]
    constructor
    · rintro ⟨before, mark, after, rfl, marks, clean⟩
      exact ⟨character :: before, mark, after, rfl, marks, clean⟩
    · rintro ⟨before, mark, after, same, marks, clean⟩
      cases before with
      | nil =>
          cases same
          simp [plain] at marks
      | cons _ before =>
          cases same
          exact ⟨before, mark, after, rfl, marks, clean⟩

theorem pieces_splitWhere (test : Char → Bool) (text : List Char) :
    ∃ first others, splitWhere test text = first :: others ∧ Pieces test text first others := by
  induction text with
  | nil => exact ⟨[], [], rfl, by simp +contextual, by simp⟩
  | cons character rest ih =>
      obtain ⟨first, others, split, pieces⟩ := ih
      cases marks : test character with
      | true => exact ⟨[], first :: others, by simp [splitWhere, marks, split], pieces.mark marks⟩
      | false => exact ⟨character :: first, others, by simp [splitWhere, marks, split],
          pieces.plain marks⟩

def lines (text : String) : List (List Char) :=
  splitWhere (· = '\n') text.toList

/-- A line begins behind this part of a text. -/
def AtLineStart (before : List Char) : Prop :=
  before = [] ∨ ∃ earlier, before = earlier ++ ['\n']

/-- A line begins with what stands at the start of a line and has no line feed. -/
theorem exists_line_iff (text : String) (inside : List Char) :
    (∃ line ∈ lines text, inside <+: line) ↔
      ∃ before after, text.toList = before ++ (inside ++ after) ∧ AtLineStart before ∧
        ∀ character ∈ inside, character ≠ '\n' := by
  obtain ⟨first, others, split, pieces⟩ := pieces_splitWhere (· = '\n') text.toList
  rw [lines, split]
  simp only [List.mem_cons, exists_eq_or_imp, pieces.first, pieces.others, decide_eq_false_iff_not,
    decide_eq_true_eq]
  constructor
  · rintro (⟨after, same, clean⟩ | ⟨before, mark, after, same, rfl, clean⟩)
    · exact ⟨[], after, same, .inl rfl, clean⟩
    · exact ⟨before ++ ['\n'], after, by simp [same], .inr ⟨before, rfl⟩, clean⟩
  · rintro ⟨before, after, same, rfl | ⟨earlier, rfl⟩, clean⟩
    · exact .inl ⟨after, same, clean⟩
    · exact .inr ⟨earlier, '\n', after, by simp [same], rfl, clean⟩

theorem noLineFeed_of_mem_lines {text : String} {line : List Char} (member : line ∈ lines text) :
    ∀ character ∈ line, character ≠ '\n' := by
  obtain ⟨_, _, _, _, clean⟩ :=
    (exists_line_iff text line).mp ⟨line, member, List.prefix_refl line⟩
  exact clean

theorem join_splitWhere (mark : Char) (text : List Char) :
    join [mark] (splitWhere (· = mark) text) = text := by
  induction text with
  | nil => rfl
  | cons character rest ih =>
      obtain ⟨first, others, split, _⟩ := pieces_splitWhere (· = mark) rest
      rw [split] at ih
      by_cases marks : character = mark
      · simp [splitWhere, marks, split, join, ih]
      · cases others with
        | nil => simpa [splitWhere, marks, split, join] using ih
        | cons second others => simpa [splitWhere, marks, split, join] using ih

theorem join_cons_cons (separator text next : List Char) (texts : List (List Char)) :
    join separator (text :: next :: texts) = text ++ separator ++ join separator (next :: texts) :=
  rfl

theorem exists_join_cons (separator text : List Char) (texts : List (List Char)) :
    ∃ rest, join separator (text :: texts) = text ++ rest := by
  cases texts with
  | nil => exact ⟨[], (List.append_nil text).symm⟩
  | cons next texts => exact ⟨_, List.append_assoc text separator _⟩

theorem mem_join {separator : List Char} {texts : List (List Char)} {character : Char}
    (member : character ∈ join separator texts) :
    character ∈ separator ∨ ∃ text ∈ texts, character ∈ text := by
  induction texts with
  | nil => cases member
  | cons text texts ih =>
      cases texts with
      | nil => exact .inr ⟨text, List.mem_cons_self, member⟩
      | cons next texts =>
          rcases List.mem_append.mp member with earlier | later
          · rcases List.mem_append.mp earlier with inText | inSeparator
            · exact .inr ⟨text, List.mem_cons_self, inText⟩
            · exact .inl inSeparator
          · rcases ih later with inSeparator | ⟨other, among, inOther⟩
            · exact .inl inSeparator
            · exact .inr ⟨other, List.mem_cons_of_mem _ among, inOther⟩

theorem splitWhere_join {mark : Char} {texts : List (List Char)} (nonempty : texts ≠ [])
    (clean : ∀ text ∈ texts, mark ∉ text) : splitWhere (· = mark) (join [mark] texts) = texts := by
  have unmarked {text : List Char} (absent : mark ∉ text) :
      ∀ character ∈ text, decide (character = mark) = false := by
    intro character member
    exact decide_eq_false fun same => absent (same ▸ member)
  induction texts with
  | nil => exact absurd rfl nonempty
  | cons text texts ih =>
      obtain ⟨first, rest⟩ := List.forall_mem_cons.mp clean
      cases texts with
      | nil => exact splitWhere_of_clean (unmarked first)
      | cons next texts =>
          rw [join_cons_cons, List.append_assoc, List.singleton_append,
            splitWhere_append (unmarked first) (decide_eq_true rfl),
            ih (List.cons_ne_nil _ _) rest]

theorem join_lines (text : String) : join ['\n'] (lines text) = text.toList :=
  join_splitWhere '\n' text.toList

theorem lines_ne_nil (text : String) : lines text ≠ [] := by
  obtain ⟨first, others, split, _⟩ := pieces_splitWhere (· = '\n') text.toList
  rw [lines, split]
  exact List.cons_ne_nil _ _

/-! Cutting a text at the first or the last of some marks. -/

theorem splitLast_eq_none {mark : Char} {text : List Char} (none : splitLast mark text = none) :
    mark ∉ text := by
  induction text with
  | nil => simp
  | cons character rest ih =>
      rw [splitLast] at none
      split at none
      next => cases none
      next later =>
        split at none
        next => cases none
        next different => exact List.not_mem_cons_of_ne_of_not_mem (Ne.symm different) (ih later)

theorem splitLast_eq_some {mark : Char} {text before after : List Char}
    (split : splitLast mark text = some (before, after)) :
    text = before ++ mark :: after ∧ mark ∉ after := by
  induction text generalizing before with
  | nil => cases split
  | cons character rest ih =>
      rw [splitLast] at split
      cases later : splitLast mark rest with
      | some sides =>
          simp only [later, Option.some.injEq, Prod.mk.injEq] at split
          obtain ⟨rfl, rfl⟩ := split
          obtain ⟨same, only⟩ := ih later
          exact ⟨by rw [same, List.cons_append], only⟩
      | none =>
          simp only [later] at split
          split at split
          next same =>
            cases split
            exact ⟨by rw [same, List.nil_append], splitLast_eq_none later⟩
          next => cases split

theorem splitFirst_append {mark : Char} {before : List Char} (absent : mark ∉ before)
    (after : List Char) : splitFirst mark (before ++ mark :: after) = some (before, after) := by
  induction before with
  | nil => simp [splitFirst]
  | cons character before ih =>
      rw [List.mem_cons, not_or] at absent
      simp [splitFirst, Ne.symm absent.1, ih absent.2]

theorem splitLast_of_absent {mark : Char} {text : List Char} (absent : mark ∉ text) :
    splitLast mark text = none := by
  induction text with
  | nil => rfl
  | cons character text ih =>
      rw [List.mem_cons, not_or] at absent
      simp [splitLast, ih absent.2, Ne.symm absent.1]

theorem splitLast_append {mark : Char} {after : List Char} (absent : mark ∉ after)
    (before : List Char) : splitLast mark (before ++ mark :: after) = some (before, after) := by
  induction before with
  | nil => simp [splitLast, splitLast_of_absent absent]
  | cons character before ih => simp [splitLast, ih]

end AutoReply.Text
