import AutoReply.Text.Blank

/-!
The words of a text, which are what stands between its blanks. Every text has one list of words.
-/

namespace AutoReply.Text

theorem isBlank_eq_false {character : Char} (low : 0x21 ≤ character.toNat)
    (high : character.toNat ≤ 0x84) : isBlank character = false := by
  simp only [isBlank, Ranges.has, blankRanges, List.any_cons, List.any_nil, Bool.or_eq_false_iff,
    Bool.and_eq_false_iff, decide_eq_false_iff_not, Bool.or_false]
  omega

theorem noBlank_of_any {text : List Char} (none : text.any isBlank = false) :
    ∀ character ∈ text, isBlank character = false := by
  simpa using none

def IsWord (text : List Char) : Prop :=
  text ≠ [] ∧ ∀ character ∈ text, isBlank character = false

inductive HasWords : List Char → List (List Char) → Prop
  | none : HasWords [] []
  | blank {mark : Char} {rest : List Char} {words : List (List Char)} :
      isBlank mark = true → HasWords rest words → HasWords (mark :: rest) words
  | last {word : List Char} : IsWord word → HasWords word [word]
  | next {word : List Char} {mark : Char} {rest : List Char} {words : List (List Char)} :
      IsWord word → isBlank mark = true → HasWords rest words →
        HasWords (word ++ mark :: rest) (word :: words)

section

variable {test : Char → Bool} {piece : List Char}

theorem splitWhere_of_clean (clean : ∀ character ∈ piece, test character = false) :
    splitWhere test piece = [piece] := by
  induction piece with
  | nil => rfl
  | cons character piece ih =>
      obtain ⟨plain, later⟩ := List.forall_mem_cons.mp clean
      simp [splitWhere, plain, ih later]

theorem splitWhere_append (clean : ∀ character ∈ piece, test character = false) {mark : Char}
    (marks : test mark = true) (rest : List Char) :
    splitWhere test (piece ++ mark :: rest) = piece :: splitWhere test rest := by
  induction piece with
  | nil => simp [splitWhere, marks]
  | cons character piece ih =>
      obtain ⟨plain, later⟩ := List.forall_mem_cons.mp clean
      simp [splitWhere, plain, ih later]

end

theorem words_blank {mark : Char} (marks : isBlank mark = true) (rest : List Char) :
    words (mark :: rest) = words rest := by
  simp [words, splitWhere, marks]

theorem words_last {word : List Char} (isWord : IsWord word) : words word = [word] := by
  simp [words, splitWhere_of_clean isWord.2, isWord.1]

theorem words_next {word : List Char} (isWord : IsWord word) {mark : Char}
    (marks : isBlank mark = true) (rest : List Char) :
    words (word ++ mark :: rest) = word :: words rest := by
  simp [words, splitWhere_append isWord.2 marks, isWord.1]

theorem HasWords.words_eq {text : List Char} {listed : List (List Char)}
    (hasWords : HasWords text listed) : words text = listed := by
  induction hasWords with
  | none => rfl
  | blank marks _ ih => rw [words_blank marks, ih]
  | last isWord => exact words_last isWord
  | next isWord marks _ ih => rw [words_next isWord marks, ih]

theorem exists_hasWords_append {word : List Char}
    (clean : ∀ character ∈ word, isBlank character = false) (rest : List Char) :
    ∃ listed, HasWords (word ++ rest) listed := by
  -- on the rest, while the word that has begun grows
  induction rest generalizing word with
  | nil =>
      rw [List.append_nil]
      by_cases empty : word = []
      · exact ⟨[], empty ▸ .none⟩
      · exact ⟨[word], .last ⟨empty, clean⟩⟩
  | cons character rest ih =>
      cases marks : isBlank character with
      | true =>
          obtain ⟨listed, later⟩ := ih (List.forall_mem_nil _)
          by_cases empty : word = []
          · exact ⟨listed, empty ▸ .blank marks later⟩
          · exact ⟨word :: listed, .next ⟨empty, clean⟩ marks later⟩
      | false =>
          have longer : ∀ other ∈ word ++ [character], isBlank other = false :=
            List.forall_mem_append.mpr ⟨clean, List.forall_mem_singleton.mpr marks⟩
          simpa using ih longer

theorem hasWords_iff {text : List Char} {listed : List (List Char)} :
    HasWords text listed ↔ words text = listed := by
  refine ⟨HasWords.words_eq, ?_⟩
  rintro rfl
  obtain ⟨listed, hasWords⟩ := exists_hasWords_append (List.forall_mem_nil _) text
  exact hasWords.words_eq ▸ hasWords

/-- A blank ends a word, so the words before it and those behind it have nothing to do with each
other. -/
theorem HasWords.append_blank {earlier later : List Char} {listed others : List (List Char)}
    (hasWords : HasWords earlier listed) {mark : Char} (marks : isBlank mark = true)
    (hasOthers : HasWords later others) :
    HasWords (earlier ++ mark :: later) (listed ++ others) := by
  induction hasWords with
  | none => exact .blank marks hasOthers
  | blank marksOther _ ih => exact .blank marksOther ih
  | last isWord => exact .next isWord marks hasOthers
  | next isWord marksOther _ ih =>
      rw [List.append_assoc]
      exact .next isWord marksOther ih

/-- A text that begins with a word or a part of one has a first word that begins so. -/
theorem exists_hasWords_of_isWord {start : List Char} (isWord : IsWord start) (rest : List Char) :
    ∃ word others, HasWords (start ++ rest) (word :: others) ∧ start <+: word := by
  induction rest generalizing start with
  | nil =>
      rw [List.append_nil]
      exact ⟨start, [], .last isWord, List.prefix_refl start⟩
  | cons character rest ih =>
      cases marks : isBlank character with
      | true =>
          obtain ⟨others, later⟩ := exists_hasWords_append (List.forall_mem_nil _) rest
          exact ⟨start, others, .next isWord marks later, List.prefix_refl start⟩
      | false =>
          have longer : IsWord (start ++ [character]) :=
            ⟨by simp, List.forall_mem_append.mpr
              ⟨isWord.2, List.forall_mem_singleton.mpr marks⟩⟩
          obtain ⟨word, others, hasWords, begins⟩ := ih longer
          rw [List.append_assoc] at hasWords
          exact ⟨word, others, hasWords, (List.prefix_append start _).trans begins⟩

end AutoReply.Text
