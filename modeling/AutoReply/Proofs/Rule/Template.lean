import AutoReply.Rule.Template

/-!
How templates are read. A template falls into pieces before any argument is known, and formatting
puts the arguments into the pieces as they are.
-/

namespace AutoReply.Rule.Template

open AutoReply.Number

inductive Piece (count : Nat)
  | literal (text : String)
  | argument (index : Fin count)

def Piece.fill {count : Nat} (arguments : Fin count → String) : Piece count → String
  | literal text => text
  | argument index => arguments index

def IsBrace (character : Char) : Prop :=
  character = '{' ∨ character = '}'

def OpensPlace (count : Nat) (afterBrace : List Char) : Prop :=
  ∃ inside rest, afterBrace = inside ++ '}' :: rest ∧ ∃ index < count, natural? inside = some index

/-- The rules of templates. The cases exclude each other, so that every template has one reading. -/
inductive Reading (count : Nat) : List Char → List (Piece count) → Prop
  | done : Reading count [] []
  | plain {character : Char} {rest : List Char} {pieces : List (Piece count)} :
      ¬ IsBrace character → Reading count rest pieces →
      Reading count (character :: rest) (.literal character.toString :: pieces)
  | doubled {brace : Char} {rest : List Char} {pieces : List (Piece count)} :
      IsBrace brace → Reading count rest pieces →
      Reading count (brace :: brace :: rest) (.literal brace.toString :: pieces)
  | place {inside rest : List Char} {pieces : List (Piece count)} (index : Fin count) :
      natural? inside = some index.val → Reading count rest pieces →
      Reading count ('{' :: (inside ++ '}' :: rest)) (.argument index :: pieces)
  | stray {brace : Char} {rest : List Char} {pieces : List (Piece count)} :
      IsBrace brace → rest.head? ≠ some brace → ¬ (brace = '{' ∧ OpensPlace count rest) →
      Reading count rest pieces →
      Reading count (brace :: rest) (.literal brace.toString :: pieces)

/-! What stands in a place is a number, so that it holds no brace. -/

theorem not_isBrace_of_isDigit {character : Char} (digit : character.isDigit = true) :
    ¬ IsBrace character := by
  rintro (rfl | rfl)
  · exact absurd digit (by decide)
  · exact absurd digit (by decide)

theorem not_isBrace_of_natural? {inside : List Char} {index : Nat}
    (number : natural? inside = some index) :
    inside ≠ [] ∧ ∀ character ∈ inside, ¬ IsBrace character := by
  simp only [natural?, Option.ite_none_right_eq_some, Bool.and_eq_true, List.all_eq_true] at number
  obtain ⟨⟨nonempty, digits⟩, _⟩ := number
  split at digits
  next rest =>
    refine ⟨List.cons_ne_nil _ _, List.forall_mem_cons.mpr ⟨?_, ?_⟩⟩
    · unfold IsBrace
      decide
    · exact fun character member => not_isBrace_of_isDigit (digits character member)
  next =>
    refine ⟨?_, fun character member => not_isBrace_of_isDigit (digits character member)⟩
    rintro rfl
    contradiction

theorem closing_not_mem {inside : List Char} {index : Nat}
    (number : natural? inside = some index) : '}' ∉ inside :=
  fun member => (not_isBrace_of_natural? number).2 '}' member (Or.inr rfl)

theorem head?_place {inside : List Char} {index : Nat} (number : natural? inside = some index)
    (rest : List Char) : (inside ++ '}' :: rest).head? ≠ some '{' := by
  obtain ⟨nonempty, noBrace⟩ := not_isBrace_of_natural? number
  cases inside with
  | nil => contradiction
  | cons first inside =>
      rw [List.cons_append, List.head?_cons, ne_eq, Option.some.injEq]
      exact fun same => noBrace first List.mem_cons_self (Or.inl same)

theorem takeWhile_place {inside : List Char} {index : Nat}
    (number : natural? inside = some index) (rest : List Char) :
    (inside ++ '}' :: rest).takeWhile (· != '}') = inside := by
  rw [List.takeWhile_append_of_pos]
  · simp
  · intro character member
    exact bne_iff_ne.mpr fun same => closing_not_mem number (same ▸ member)

section

variable {count : Nat} (arguments : Fin count → String)

theorem argument?_place {inside : List Char} {index : Fin count}
    (number : natural? inside = some index.val) (rest : List Char) :
    argument? (List.ofFn arguments) (inside ++ '}' :: rest) =
      some (arguments index, inside.length + 1) := by
  unfold argument?
  simp [takeWhile_place number, number]

theorem opensPlace_of_argument? {afterBrace : List Char} {found : String × Nat}
    (named : argument? (List.ofFn arguments) afterBrace = some found) :
    OpensPlace count afterBrace := by
  simp only [argument?, Option.ite_none_right_eq_some] at named
  obtain ⟨shorter, chosen⟩ := named
  obtain ⟨argument, chosen, _⟩ := Option.map_eq_some_iff.mp chosen
  obtain ⟨index, number, listed⟩ := Option.bind_eq_some_iff.mp chosen
  obtain ⟨inRange, _⟩ := List.getElem?_eq_some_iff.mp listed
  have whole := List.takeWhile_append_dropWhile (p := (· != '}')) (l := afterBrace)
  have closing := List.head?_dropWhile_not (· != '}') afterBrace
  cases behind : afterBrace.dropWhile (· != '}') with
  | nil =>
      rw [behind, List.append_nil] at whole
      rw [whole] at shorter
      exact absurd shorter (Nat.lt_irrefl _)
  | cons mark rest =>
      rw [behind, List.head?_cons] at closing
      have isClosing : mark = '}' := by simpa using closing
      rw [behind, isClosing] at whole
      exact ⟨_, rest, whole.symm, index, by simpa using inRange, number⟩

theorem fillAfter_append (given : List String) (skipped rest : List Char) :
    fillAfter given skipped.length (skipped ++ rest) = fillAfter given 0 rest := by
  induction skipped with
  | nil => rfl
  | cons character skipped ih => exact ih

theorem fillAfter_of_reading {template : List Char} {pieces : List (Piece count)}
    (reading : Reading count template pieces) :
    fillAfter (List.ofFn arguments) 0 template =
      pieces.flatMap fun piece => (piece.fill arguments).toList := by
  induction reading with
  | done => rfl
  | plain noBrace _ ih =>
      obtain ⟨notOpening, notClosing⟩ := not_or.mp noBrace
      simp [fillAfter, notOpening, notClosing, ih, Piece.fill]
  | @doubled brace rest pieces isBrace _ ih =>
      have skip := fillAfter_append (List.ofFn arguments) [brace] rest
      rcases isBrace with rfl | rfl <;>
        simpa [fillAfter, Piece.fill] using ih
  | @place inside rest pieces index number _ ih =>
      have skip := fillAfter_append (List.ofFn arguments) (inside ++ ['}']) rest
      rw [List.length_append, List.length_singleton, List.append_assoc, List.singleton_append]
        at skip
      have single : ((inside ++ '}' :: rest).head? == some '{') = false :=
        beq_eq_false_iff_ne.mpr (head?_place number rest)
      simp only [fillAfter, single, argument?_place arguments number, skip, ih, Bool.and_false,
        Bool.false_eq_true, if_false, if_true, List.flatMap_cons, Piece.fill]
  | @stray brace rest pieces isBrace single closed _ ih =>
      have unnamed : (if brace = '{' then argument? (List.ofFn arguments) rest else none) = none := by
        split
        next opening =>
          rw [Option.eq_none_iff_forall_ne_some]
          intro found named
          exact closed ⟨opening, opensPlace_of_argument? arguments named⟩
        next => rfl
      simp [fillAfter, single, unnamed, ih, Piece.fill]

end

theorem exists_reading (count : Nat) (template : List Char) :
    ∃ pieces, Reading count template pieces := by
  induction length : template.length using Nat.strongRecOn generalizing template with
  | ind size ih =>
      cases template with
      | nil => exact ⟨[], .done⟩
      | cons character rest =>
          rw [List.length_cons] at length
          obtain ⟨pieces, reading⟩ := ih rest.length (by omega) rest rfl
          by_cases isBrace : IsBrace character
          · by_cases twice : rest.head? = some character
            · obtain ⟨after, rfl⟩ := List.head?_eq_some_iff.mp twice
              rw [List.length_cons] at length
              obtain ⟨later, behind⟩ := ih after.length (by omega) after rfl
              exact ⟨_, .doubled isBrace behind⟩
            · by_cases opens : character = '{' ∧ OpensPlace count rest
              · obtain ⟨rfl, inside, after, rfl, index, inRange, number⟩ := opens
                rw [List.length_append, List.length_cons] at length
                obtain ⟨later, behind⟩ := ih after.length (by omega) after rfl
                exact ⟨_, .place ⟨index, inRange⟩ number behind⟩
              · exact ⟨_, .stray isBrace twice opens reading⟩
          · exact ⟨_, .plain isBrace reading⟩

theorem place_unique {inside other rest otherRest : List Char} {index otherIndex : Nat}
    (number : natural? inside = some index) (otherNumber : natural? other = some otherIndex)
    (same : other ++ '}' :: otherRest = inside ++ '}' :: rest) :
    otherRest = rest ∧ otherIndex = index := by
  have sameInside : other = inside := by
    rw [← takeWhile_place otherNumber otherRest, same, takeWhile_place number rest]
  subst sameInside
  rw [number, Option.some.injEq] at otherNumber
  rw [List.append_cancel_left_eq, List.cons.injEq] at same
  exact ⟨same.2, otherNumber.symm⟩

theorem Reading.unique {count : Nat} {template : List Char} {pieces other : List (Piece count)}
    (reading : Reading count template pieces) (otherReading : Reading count template other) :
    other = pieces := by
  induction reading generalizing other with
  | done =>
      cases otherReading
      rfl
  | plain noBrace _ ih =>
      cases otherReading with
      | plain _ later => rw [ih later]
      | doubled isBrace _ => exact absurd isBrace noBrace
      | place _ _ _ => exact absurd (Or.inl rfl) noBrace
      | stray isBrace _ _ _ => exact absurd isBrace noBrace
  | @doubled brace rest pieces isBrace _ ih =>
      generalize listed : brace :: brace :: rest = text at otherReading
      cases otherReading with
      | done => contradiction
      | plain noBrace _ =>
          obtain ⟨rfl, _⟩ := List.cons.inj listed
          exact absurd isBrace noBrace
      | doubled _ later =>
          obtain ⟨rfl, tail⟩ := List.cons.inj listed
          obtain ⟨_, rfl⟩ := List.cons.inj tail
          rw [ih later]
      | place _ number _ =>
          obtain ⟨rfl, tail⟩ := List.cons.inj listed
          exact absurd (congrArg List.head? tail).symm (head?_place number _)
      | stray _ single _ _ =>
          obtain ⟨rfl, rfl⟩ := List.cons.inj listed
          contradiction
  | @place inside rest pieces index number _ ih =>
      generalize listed : '{' :: (inside ++ '}' :: rest) = text at otherReading
      cases otherReading with
      | done => contradiction
      | plain noBrace _ =>
          obtain ⟨rfl, _⟩ := List.cons.inj listed
          exact absurd (Or.inl rfl) noBrace
      | doubled _ _ =>
          obtain ⟨rfl, tail⟩ := List.cons.inj listed
          exact absurd (congrArg List.head? tail) (head?_place number rest)
      | place otherIndex otherNumber later =>
          obtain ⟨rfl, sameIndex⟩ := place_unique number otherNumber (List.cons.inj listed).2.symm
          rw [ih later, Fin.ext sameIndex]
      | stray _ _ closed _ =>
          obtain ⟨rfl, rfl⟩ := List.cons.inj listed
          exact absurd ⟨rfl, inside, rest, rfl, index.val, index.isLt, number⟩ closed
  | stray isBrace single closed _ ih =>
      cases otherReading with
      | plain noBrace _ => exact absurd isBrace noBrace
      | doubled _ _ => contradiction
      | place index number _ =>
          exact absurd ⟨rfl, _, _, rfl, index.val, index.isLt, number⟩ closed
      | stray _ _ _ later => rw [ih later]

/-- A template has one reading as a sequence of pieces, which depends on nothing but the template
and the count of the arguments. Formatting puts the arguments into these pieces as they are. -/
theorem arguments_never_interpreted (template : String) (count : Nat) :
    ∃ pieces : List (Piece count), Reading count template.toList pieces ∧
      (∀ other, Reading count template.toList other → other = pieces) ∧
      ∀ arguments : Fin count → String,
        format template (List.ofFn arguments) =
          String.join (pieces.map (Piece.fill arguments)) := by
  obtain ⟨pieces, reading⟩ := exists_reading count template.toList
  refine ⟨pieces, reading, fun other otherReading => reading.unique otherReading, ?_⟩
  intro arguments
  apply String.toList_injective
  rw [format, fillAfter_of_reading arguments reading, String.toList_ofList, String.toList_join,
    List.flatMap_map]

example : format "\x7b0\x7d likes \x7b1\x7d, \x7b2\x7d" ["\x7b1\x7d", "tea"] =
    "\x7b1\x7d likes tea, \x7b2\x7d" := by decide

end AutoReply.Rule.Template
