import Mathlib.Data.List.Basic
import Mathlib.Data.List.OfFn
import AutoReply.Proofs.Number.Reading
import AutoReply.Proofs.Rule.Template

/-!
Writing templates. Braces of literals are written twice and arguments by their number; formatting
undoes that, and leaves alone what holds neither a doubled brace nor a place.
-/

namespace AutoReply.Rule.Template

open AutoReply.Number

instance (character : Char) : Decidable (IsBrace character) :=
  inferInstanceAs (Decidable (_ ∨ _))

def doubled (text : List Char) : List Char :=
  text.flatMap fun character => if IsBrace character then [character, character] else [character]

section

variable {count : Nat}

def Piece.written : Piece count → List Char
  | literal text => doubled text.toList
  | argument index => '{' :: (digitsOf index.val ++ ['}'])

def written (pieces : List (Piece count)) : String :=
  String.ofList (pieces.flatMap Piece.written)

def letters (text : List Char) : List (Piece count) :=
  text.map fun character => .literal character.toString

/-- How a piece is read again: literals fall into their characters. -/
def Piece.readBack : Piece count → List (Piece count)
  | literal text => letters text.toList
  | argument index => [.argument index]

/-- Neither a doubled brace nor a place for one of `count` arguments stands in the template. -/
structure Verbatim (count : Nat) (template : List Char) : Prop where
  single : ∀ brace, IsBrace brace → ¬ [brace, brace] <:+: template
  unplaced : ∀ inside index, natural? inside = some index → index < count →
    ¬ '{' :: (inside ++ ['}']) <:+: template

theorem natural?_digitsOf (number : Nat) : natural? (digitsOf number) = some number := by
  have digits : ∀ digit ∈ digitsOf number, digit.isDigit = true :=
    fun _ => isDigit_of_mem_digitsOf
  have value := ofDigits_digitsOf number
  cases listed : digitsOf number with
  | nil => exact absurd listed (digitsOf_ne_nil number)
  | cons first rest =>
      rw [listed] at digits value
      have noPlus : first ≠ '+' := by
        rintro rfl
        exact absurd (digits '+' List.mem_cons_self) (by decide)
      have all : (first :: rest).all Char.isDigit = true := List.all_eq_true.mpr digits
      unfold natural?
      split
      next same => exact absurd (List.cons.inj same).1 noPlus
      next => simp [all, value]

theorem reading_doubled (text : List Char) {rest : List Char} {pieces : List (Piece count)}
    (reading : Reading count rest pieces) :
    Reading count (doubled text ++ rest) (letters text ++ pieces) := by
  induction text with
  | nil => exact reading
  | cons character text ih =>
      unfold doubled letters at *
      rw [List.flatMap_cons, List.append_assoc, List.map_cons]
      by_cases isBrace : IsBrace character
      · rw [if_pos isBrace]
        exact .doubled isBrace ih
      · rw [if_neg isBrace]
        exact .plain isBrace ih

theorem Piece.reading_written (piece : Piece count) {rest : List Char}
    {pieces : List (Piece count)} (reading : Reading count rest pieces) :
    Reading count (piece.written ++ rest) (piece.readBack ++ pieces) := by
  cases piece with
  | literal text => exact reading_doubled text.toList reading
  | argument index =>
      have place := Reading.place index (natural?_digitsOf index.val) reading
      simpa [written, readBack] using place

theorem reading_flatMap_written (pieces : List (Piece count)) :
    Reading count (pieces.flatMap Piece.written) (pieces.flatMap Piece.readBack) := by
  induction pieces with
  | nil => exact .done
  | cons piece pieces ih => exact piece.reading_written ih

theorem fill_letters (arguments : Fin count → String) (text : List Char) :
    ((letters text).flatMap fun piece => (piece.fill arguments).toList) = text := by
  unfold letters
  rw [List.flatMap_map]
  simp [Piece.fill]

theorem Piece.fill_readBack (arguments : Fin count → String) (piece : Piece count) :
    (piece.readBack.flatMap fun piece => (piece.fill arguments).toList) =
      (piece.fill arguments).toList := by
  cases piece with
  | literal text => exact fill_letters arguments text.toList
  | argument index => simp [readBack]

theorem format_of_reading (arguments : List String) {template : String}
    {pieces : List (Piece arguments.length)}
    (reading : Reading arguments.length template.toList pieces) :
    (format template arguments).toList =
      pieces.flatMap fun piece => (piece.fill arguments.get).toList := by
  have filled := fillAfter_of_reading arguments.get reading
  rw [List.ofFn_get] at filled
  rw [format, String.toList_ofList, filled]

theorem format_written (arguments : List String) (pieces : List (Piece arguments.length)) :
    format (written pieces) arguments = String.join (pieces.map (Piece.fill arguments.get)) := by
  have reading := reading_flatMap_written pieces
  rw [← String.toList_ofList (l := pieces.flatMap Piece.written)] at reading
  apply String.toList_injective
  rw [written, format_of_reading arguments reading, String.toList_join, List.flatMap_assoc,
    List.flatMap_map]
  exact List.flatMap_congr fun piece _ => piece.fill_readBack arguments.get

theorem Verbatim.tail {character : Char} {rest : List Char}
    (verbatim : Verbatim count (character :: rest)) : Verbatim count rest where
  single brace isBrace inside :=
    verbatim.single brace isBrace (List.infix_cons inside)
  unplaced inside index number inRange stands :=
    verbatim.unplaced inside index number inRange (List.infix_cons stands)

theorem Verbatim.not_head {brace : Char} {rest : List Char}
    (verbatim : Verbatim count (brace :: rest)) (isBrace : IsBrace brace) :
    rest.head? ≠ some brace := by
  intro twice
  obtain ⟨after, rfl⟩ := List.head?_eq_some_iff.mp twice
  exact verbatim.single brace isBrace (List.prefix_append [brace, brace] after).isInfix

theorem Verbatim.not_opensPlace {rest : List Char} (verbatim : Verbatim count ('{' :: rest)) :
    ¬ OpensPlace count rest := by
  rintro ⟨inside, after, rfl, index, inRange, number⟩
  refine verbatim.unplaced inside index number inRange ⟨[], after, ?_⟩
  simp

theorem Verbatim.reading {template : List Char} (verbatim : Verbatim count template) :
    Reading count template (letters template) := by
  induction template with
  | nil => exact .done
  | cons character rest ih =>
      by_cases isBrace : IsBrace character
      · refine .stray isBrace (verbatim.not_head isBrace) ?_ (ih verbatim.tail)
        rintro ⟨rfl, opens⟩
        exact verbatim.not_opensPlace opens
      · exact .plain isBrace (ih verbatim.tail)

end

/-- Formatting undoes writing: from a template written out of literals and arguments it makes those
literals and the arguments that were meant, and it changes nothing where there is nothing to undo. -/
theorem formatting_undoes_writing (arguments : List String) :
    (∀ pieces : List (Piece arguments.length),
        format (written pieces) arguments =
          String.join (pieces.map (Piece.fill arguments.get))) ∧
      (∀ text : String, format (String.ofList (doubled text.toList)) arguments = text) ∧
      ∀ template : String, Verbatim arguments.length template.toList →
        format template arguments = template := by
  refine ⟨format_written arguments, fun text => ?_, fun template verbatim => ?_⟩
  · have single := format_written arguments [.literal text]
    simpa [written, Piece.written, Piece.fill] using single
  · apply String.toList_injective
    rw [format_of_reading arguments verbatim.reading, fill_letters]

example : format "\x7b\x7b\x7b0\x7d\x7d\x7d" ["tea"] = "\x7btea\x7d" := by decide

end AutoReply.Rule.Template
