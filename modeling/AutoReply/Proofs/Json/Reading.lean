import AutoReply.Json.Value
import AutoReply.Proofs.Number.Reading

/-!
What is written as JSON is read back: texts, truth values, whole numbers and maps, on one line or
indented.
-/

namespace AutoReply.Json

open AutoReply.Number AutoReply.Text

variable {α β : Type}

/-- A reader takes exactly a text, in front of what follows. -/
def Reads (reader : Reader α) (text : List Char) (value : α) (rest : Rest) : Prop :=
  reader (text.map some ++ rest) = .done value rest

namespace Reads

open Reader

theorem bind {reader : Reader α} {next : α → Reader β} {text more : List Char} {value : α}
    {final : β} {rest : Rest} (first : Reads reader text value (more.map some ++ rest))
    (second : Reads (next value) more final rest) :
    Reads (reader >>= next) (text ++ more) final rest := by
  show Reader.bind reader next _ = _
  unfold Reader.bind
  rw [List.map_append, List.append_assoc, first]
  exact second

theorem last {reader : Reader α} {next : α → Reader β} {text : List Char} {value : α} {final : β}
    {rest : Rest} (first : Reads reader text value rest) (ended : next value = Pure.pure final) :
    Reads (reader >>= next) text final rest := by
  show Reader.bind reader next _ = _
  unfold Reader.bind
  rw [first]
  exact congrFun ended rest

theorem placed {reader : Reader α} {text : List Char} {value : α} {rest : Rest}
    (reads : Reads reader text value rest) : Reads (Reader.placed reader) text value rest := by
  show Reader.placed reader _ = _
  unfold Reader.placed
  rw [reads]

theorem drop (character : Char) (rest : Rest) : Reads Reader.drop [character] () rest := rfl

end Reads

theorem shortEscape?_eq_some {character letter : Char}
    (short : Json.shortEscape? character = some letter) :
    letter ≠ 'u' ∧ shortUnescape? letter = some character := by
  unfold Json.shortEscape? at short
  split at short <;> cases short <;> decide

theorem hexValue?_lowerDigit {value : Nat} (small : value < 16) :
    hexValue? (some (Json.escape.lowerDigit value)) = some value := by
  have all : ∀ value < 16, hexValue? (some (Json.escape.lowerDigit value)) = some value := by decide
  exact all value small

namespace Reader

@[simp] theorem bind_apply (reader : Reader α) (next : α → Reader β) (rest : Rest) :
    (reader >>= next) rest =
      match reader rest with
      | .done value rest => next value rest
      | .failed fault rest => .failed fault rest := rfl

@[simp] theorem pure_apply (value : α) (rest : Rest) :
    (Pure.pure value : Reader α) rest = .done value rest := rfl

@[simp] theorem peek_apply (rest : Rest) : peek rest = .done rest.head? rest := rfl

@[simp] theorem drop_apply (rest : Rest) : drop rest = .done () rest.tail := rfl

end Reader

theorem hexEscape_lowerDigits {first second : Nat} (small : first < 16) (other : second < 16)
    (rest : Rest) :
    hexEscape (some '0' :: some '0' :: some (Json.escape.lowerDigit first) ::
      some (Json.escape.lowerDigit second) :: rest) = .done (first * 16 + second) rest := by
  have zero : hexValue? (some '0') = some 0 := by decide
  simp [hexEscape, hexValue?_lowerDigit small, hexValue?_lowerDigit other, zero]

theorem reads_unescape {character : Char} {text : List Char}
    (written : Json.escape character = '\\' :: text) (rest : Rest) :
    Reads unescape text character rest := by
  unfold Json.escape at written
  split at written
  next letter short =>
    obtain ⟨different, back⟩ := shortEscape?_eq_some short
    cases written
    show unescape (some letter :: rest) = _
    simp [unescape, different, back]
  next raw =>
    split at written
    next control =>
      cases written
      have read := hexEscape_lowerDigits (show character.toNat / 16 < 16 by omega)
        (show character.toNat % 16 < 16 by omega) rest
      rw [Nat.div_add_mod'] at read
      show unescape (some 'u' :: some '0' :: some '0' :: _) = _
      simp [unescape, unicodeEscape, read, show ¬ 56320 ≤ character.toNat by omega,
        show character.toNat < 55296 by omega]
    next printable =>
      cases written
      contradiction

/-- A character stands for itself or is escaped. -/
theorem escape_cases (character : Char) :
    (Json.escape character = [character] ∧ character ≠ '"' ∧ character ≠ '\\' ∧
      0x20 ≤ character.toNat) ∨ ∃ text, Json.escape character = '\\' :: text := by
  unfold Json.escape
  split
  next letter short => exact .inr ⟨_, rfl⟩
  next raw =>
    split
    next control => exact .inr ⟨_, rfl⟩
    next printable =>
      refine .inl ⟨rfl, ?_, ?_, by omega⟩
      · rintro rfl
        contradiction
      · rintro rfl
        contradiction

theorem textBehind_escape (fuel : Nat) (read : List Symbol) (character : Char) (rest : Rest) :
    textBehind (fuel + 1) read ((Json.escape character).map some ++ rest) =
      textBehind fuel (some character :: read) rest := by
  rcases escape_cases character with ⟨same, notQuote, notEscape, printable⟩ | ⟨text, escaped⟩
  · rw [same, textBehind]
    simp [notQuote, notEscape, Nat.not_lt.mpr printable]
  · rw [escaped, textBehind]
    simp [show unescape (text.map some ++ rest) = _ from reads_unescape escaped rest]

theorem textOf?_map_some (text : List Char) :
    textOf? (text.map some) = some (String.ofList text) := by
  simp [textOf?, List.filterMap_map]

theorem textBehind_chars (text : List Char) (rest : Rest) : ∀ fuel read, text.length < fuel →
    textBehind fuel (read.reverse.map some) ((text.flatMap Json.escape ++ ['"']).map some ++ rest) =
      .done (String.ofList (read ++ text)) rest := by
  induction text with
  | nil =>
      intro fuel read enough
      cases fuel with
      | zero => omega
      | succ fuel =>
          rw [textBehind]
          simp [← List.map_reverse, textOf?_map_some]
  | cons character text ih =>
      intro fuel read enough
      cases fuel with
      | zero => omega
      | succ fuel =>
          have behind := ih fuel (read ++ [character]) (by simpa using enough)
          rw [List.flatMap_cons, List.append_assoc, List.map_append, List.append_assoc,
            textBehind_escape]
          simpa using behind

theorem length_le_escaped (text : List Char) :
    text.length ≤ (text.flatMap Json.escape).length := by
  induction text with
  | nil => simp
  | cons character text ih =>
      rw [List.flatMap_cons, List.length_append, List.length_cons]
      rcases escape_cases character with ⟨same, _⟩ | ⟨rest, escaped⟩
      · simp only [same, List.length_singleton]
        omega
      · simp only [escaped, List.length_cons]
        omega

theorem reads_textBody (text : String) (rest : Rest) :
    Reads textBody (text.toList.flatMap Json.escape ++ ['"']) text rest := by
  have enough := length_le_escaped text.toList
  have read := textBehind_chars text.toList rest
    (((text.toList.flatMap Json.escape ++ ['"']).map some ++ rest).length + 1) []
    (by simp only [List.length_append, List.length_map, List.length_singleton]; omega)
  rwa [List.nil_append, String.ofList_toList] at read

theorem reads_key (text : String) (rest : Rest) :
    Reads Reader.key (Json.textChars text) text rest :=
  (Reads.drop '"' _).bind (reads_textBody text rest)

/-! Values may stand behind blanks, and end where no number goes on. -/

def Blanks (text : List Char) : Prop :=
  ∀ character ∈ text, Reader.isBlank (some character) = true

theorem blanks_nil : Blanks [] := by simp [Blanks]

/-- A number that ends here is not continued by what follows. -/
def EndsNumber (rest : Rest) : Prop :=
  ∀ symbol, rest.head? = some symbol → isDigit symbol = false ∧
    symbol ≠ some '.' ∧ symbol ≠ some 'e' ∧ symbol ≠ some 'E'

def ReadsValue (reader : Reader α) (text : List Char) (value : α) : Prop :=
  ∀ blanks rest, Blanks blanks → EndsNumber rest → Reads reader (blanks ++ text) value rest

theorem ReadsValue.map {reader : Reader α} {text : List Char} {value : α}
    (reads : ReadsValue reader text value) (change : α → β) :
    ReadsValue (change <$> reader) text (change value) :=
  fun blanks rest blank ends => (reads blanks rest blank ends).last rfl

theorem whole_of_readsValue {reader : Reader α} {text : List Char} {value : α}
    (reads : ReadsValue reader text value) : Reader.whole reader (text.map some) = .ok value := by
  have read := reads [] [] blanks_nil (fun _ none => nomatch none)
  unfold Reads at read
  rw [List.nil_append, List.append_nil] at read
  simp [Reader.whole, read, Reader.next, Reader.dropBlanks]

theorem dropBlanks_append {blanks : List Char} (blank : Blanks blanks) {symbol : Symbol}
    (solid : Reader.isBlank symbol = false) (rest : Rest) :
    Reader.dropBlanks (blanks.map some ++ symbol :: rest) = .done () (symbol :: rest) := by
  unfold Reader.dropBlanks
  rw [List.dropWhile_append_of_pos, List.dropWhile_cons_of_neg (by simp [solid])]
  intro other member
  obtain ⟨character, inside, same⟩ := List.mem_map.mp member
  exact same ▸ blank character inside

theorem next_append {blanks : List Char} (blank : Blanks blanks) {symbol : Symbol}
    (solid : Reader.isBlank symbol = false) (rest : Rest) :
    Reader.next (blanks.map some ++ symbol :: rest) = .done (some symbol) (symbol :: rest) := by
  simp [Reader.next, dropBlanks_append blank solid]

theorem valueStart_append {blanks : List Char} (blank : Blanks blanks) {symbol : Symbol}
    (solid : Reader.isBlank symbol = false) (rest : Rest) :
    Reader.valueStart (blanks.map some ++ symbol :: rest) = .done symbol (symbol :: rest) := by
  simp [Reader.valueStart, next_append blank solid]

theorem readsValue_text (text : String) :
    ReadsValue Reader.text (Json.textChars text) text := by
  intro blanks rest blank _
  refine Reads.placed ?_
  have body := reads_textBody text rest
  unfold Reads at body ⊢
  rw [List.map_append, List.append_assoc]
  simp only [Json.textChars, List.cons_append, List.map_cons, Reader.bind_apply,
    valueStart_append blank (show Reader.isBlank (some '"') = false by decide)]
  simpa using body

theorem readsValue_bool (value : Bool) :
    ReadsValue Reader.bool (if value then "true" else "false").toList value := by
  intro blanks rest blank _
  refine Reads.placed ?_
  unfold Reads
  rw [List.map_append, List.append_assoc]
  cases value
  · show (Reader.valueStart >>= _) (blanks.map some ++ some 'f' :: _) = _
    rw [Reader.bind_apply, valueStart_append blank (by decide)]
    rfl
  · show (Reader.valueStart >>= _) (blanks.map some ++ some 't' :: _) = _
    rw [Reader.bind_apply, valueStart_append blank (by decide)]
    rfl

/-! Whole numbers. -/

theorem head_digitsOf {number : Nat} (positive : 0 < number) :
    (digitsOf number).head? ≠ some '0' := by
  induction number using Nat.strongRecOn with
  | ind number ih =>
      unfold digitsOf at ih ⊢
      rcases Nat.lt_or_ge number 10 with small | large
      · rw [Nat.toDigits_of_lt_base small]
        simpa using positive.ne'
      · have head := ih (number / 10) (by omega) (by omega)
        rw [Nat.toDigits_of_base_le (by decide) large]
        cases shorter : Nat.toDigits 10 (number / 10) with
        | nil => exact absurd shorter Nat.toDigits_ne_nil
        | cons first others => rwa [shorter] at head

theorem digitsOf_eq (number : Nat) :
    ∃ first others, digitsOf number = first :: others ∧ first.isDigit = true ∧
      (first = '0' → others = []) := by
  cases read : digitsOf number with
  | nil => exact absurd read (digitsOf_ne_nil number)
  | cons first others =>
      refine ⟨first, others, rfl, ?_, fun zero => ?_⟩
      · exact isDigit_of_mem_digitsOf (read ▸ List.mem_cons_self)
      · rcases Nat.eq_zero_or_pos number with none | positive
        · subst none
          exact ((List.cons.injEq ..).mp ((Nat.toDigits_zero 10).symm.trans read)).2.symm
        · exact absurd (by rw [read, zero]; rfl) (head_digitsOf positive)

theorem reads_digits {text : List Char} (all : ∀ digit ∈ text, digit.isDigit = true) {rest : Rest}
    (ends : EndsNumber rest) : Reads digits text text rest := by
  unfold Reads digits
  have inside : ∀ symbol ∈ text.map some, isDigit symbol = true := by
    intro symbol member
    obtain ⟨digit, found, rfl⟩ := List.mem_map.mp member
    exact all digit found
  have outside : rest.takeWhile isDigit = [] ∧ rest.dropWhile isDigit = rest := by
    cases rest with
    | nil => exact ⟨rfl, rfl⟩
    | cons symbol rest => simp [(ends symbol rfl).1]
  rw [List.takeWhile_append_of_pos inside, List.dropWhile_append_of_pos inside, outside.1,
    outside.2, List.append_nil]
  simp [List.filterMap_map]

theorem fraction_absent {rest : Rest} (ends : EndsNumber rest) : fraction rest = .done [] rest := by
  cases rest with
  | nil => rfl
  | cons symbol rest =>
      have notPoint := (ends symbol rfl).2.1
      simp [fraction, notPoint]

theorem exponent_absent {rest : Rest} (ends : EndsNumber rest) :
    exponent rest = .done none rest := by
  cases rest with
  | nil => rfl
  | cons symbol rest =>
      obtain ⟨_, _, notSmall, notLarge⟩ := ends symbol rfl
      simp [exponent, notSmall, notLarge]

theorem reads_numeral {number : Nat} (small : number < wordCount) {rest : Rest}
    (ends : EndsNumber rest) : Reads numeral (digitsOf number) (.integer number) rest := by
  obtain ⟨first, others, written, digit, zero⟩ := digitsOf_eq number
  have read : Reads digits (digitsOf number) (digitsOf number) rest :=
    reads_digits (fun _ => isDigit_of_mem_digitsOf) ends
  have value := ofDigits_digitsOf number
  have positive : first ≠ '-' := by
    rintro rfl
    contradiction
  have whole : unsigned false ((digitsOf number).map some ++ rest) =
      .done (.integer number) rest := by
    unfold Reads at read
    unfold unsigned
    rw [Reader.bind_apply, read]
    rw [written] at value ⊢
    cases others with
    | nil => simp [fraction_absent ends, exponent_absent ends, numeralOf, value, small]
    | cons second others =>
        have notZero : first ≠ '0' := fun same => List.cons_ne_nil _ _ (zero same)
        simp [fraction_absent ends, exponent_absent ends, numeralOf, value, small, notZero]
  unfold Reads numeral
  rw [Reader.bind_apply, Reader.peek_apply]
  rw [written] at whole ⊢
  simpa [positive] using whole

theorem isDigit_not_blank {digit : Char} (isDigit : digit.isDigit = true) :
    Reader.isBlank (some digit) = false := by
  unfold Reader.isBlank
  simp only [Bool.or_eq_false_iff, beq_eq_false_iff_ne, ne_eq, Option.some.injEq]
  refine ⟨⟨⟨?_, ?_⟩, ?_⟩, ?_⟩
  all_goals
    rintro rfl
    contradiction

theorem readsValue_natural {limit number : Nat} (small : number < wordCount)
    (below : number < limit) (expected : String) :
    ReadsValue (Reader.natural limit expected) (digitsOf number) number := by
  intro blanks rest blank ends
  obtain ⟨first, others, written, digit, _⟩ := digitsOf_eq number
  have read := reads_numeral small ends
  refine Reads.placed ?_
  unfold Reads at read ⊢
  rw [List.map_append, List.append_assoc]
  rw [written] at read ⊢
  rw [List.map_cons, List.cons_append, Reader.bind_apply,
    valueStart_append blank (isDigit_not_blank digit)]
  rw [List.map_cons, List.cons_append] at read
  simp [isDigit, digit, read, Reader.checkedNatural, below, Reader.liftExcept, Reader.pure]

theorem readsValue_word64 (number : UInt64) :
    ReadsValue Reader.word64 (integerText number.toNat) number := by
  intro blanks rest blank ends
  have read := readsValue_natural number.toNat_lt number.toNat_lt "u64" blanks rest blank ends
  exact read.last (by rw [UInt64.ofNat_toNat])

theorem escape_digit {digit : Char} (isDigit : digit.isDigit = true) :
    Json.escape digit = [digit] := by
  have bounds : 48 ≤ digit.toNat := by
    simp only [Char.isDigit, Bool.and_eq_true, decide_eq_true_eq] at isDigit
    exact isDigit.1
  unfold Json.escape
  have plain : Json.shortEscape? digit = none := by
    unfold Json.shortEscape?
    split <;> first | rfl | contradiction
  simp [plain, show ¬ digit.toNat < 32 by omega]

theorem escape_digits {digits : List Char} (all : ∀ digit ∈ digits, digit.isDigit = true) :
    digits.flatMap Json.escape = digits := by
  induction digits with
  | nil => rfl
  | cons digit digits ih =>
      rw [List.flatMap_cons, escape_digit (all digit List.mem_cons_self),
        ih fun other member => all other (List.mem_cons_of_mem _ member), List.singleton_append]

theorem textChars_toString (number : Nat) :
    Json.textChars (toString number) = '"' :: digitsOf number ++ ['"'] := by
  unfold Json.textChars
  rw [Nat.toString_eq_repr, Nat.toList_repr]
  rw [show Nat.toDigits 10 number = digitsOf number from rfl,
    escape_digits fun _ => isDigit_of_mem_digitsOf]

theorem reads_numericKey (number : UInt64) (rest : Rest) :
    Reads Reader.numericKey (Json.textChars (toString number.toNat)) number rest := by
  obtain ⟨first, others, written, digit, _⟩ := digitsOf_eq number.toNat
  have ends : EndsNumber (some '"' :: rest) := by
    rintro symbol ⟨⟩
    decide
  have read := readsValue_word64 number [] (some '"' :: rest) blanks_nil ends
  rw [textChars_toString]
  unfold Reads at read ⊢
  rw [show integerText number.toNat = digitsOf number.toNat from rfl] at read
  rw [written] at read ⊢
  simp only [List.nil_append, List.map_cons, List.cons_append] at read
  simp [Reader.numericKey, isDigit, digit, read]

end AutoReply.Json
