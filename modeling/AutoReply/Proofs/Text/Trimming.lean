import Mathlib.Data.List.DropRight
import AutoReply.Proofs.Text.Words

/-!
What trimming takes away from the ends of a text, and what it leaves.
-/

namespace AutoReply.Text

section

variable {test : Char → Bool} {text : List Char}

theorem trimWhere_split (test : Char → Bool) (text : List Char) :
    ∃ before after, text = before ++ (trimWhere test text ++ after) ∧
      (∀ character ∈ before, test character = true) ∧
      ∀ character ∈ after, test character = true := by
  refine ⟨text.takeWhile test, (text.dropWhile test).rtakeWhile test, ?_, ?_, ?_⟩
  · have inner : trimWhere test text ++ (text.dropWhile test).rtakeWhile test =
        text.dropWhile test := List.rdropWhile_append_rtakeWhile
    rw [inner, List.takeWhile_append_dropWhile]
  · exact fun _ => List.mem_takeWhile_imp
  · exact fun _ => List.mem_rtakeWhile_imp

theorem head?_trimWhere {first : Char} (found : (trimWhere test text).head? = some first) :
    test first = false := by
  obtain ⟨rest, trimmed⟩ := List.head?_eq_some_iff.mp found
  obtain ⟨after, begun⟩ := List.rdropWhile_prefix test (text.dropWhile test)
  have same : text.dropWhile test = first :: (rest ++ after) := by
    rw [← begun, ← List.cons_append, ← trimmed]
    rfl
  have head := List.head?_dropWhile_not test text
  rw [same] at head
  simpa using head

theorem getLast?_trimWhere {last : Char} (found : (trimWhere test text).getLast? = some last) :
    test last = false := by
  have nonempty : trimWhere test text ≠ [] := by
    intro none
    simp [none] at found
  rw [List.getLast?_eq_some_getLast nonempty, Option.some.injEq] at found
  rw [← found]
  exact Bool.eq_false_iff.mpr (List.rdropWhile_last_not test (text.dropWhile test) nonempty)

end

/-! Texts with spaces around them. -/

/-- The text has a first character, which is not blank. -/
def BeginsSolid (text : List Char) : Prop :=
  ∃ first, text.head? = some first ∧ isBlank first = false

/-- The text has a last character, which is not blank. -/
def EndsSolid (text : List Char) : Prop :=
  ∃ last, text.getLast? = some last ∧ isBlank last = false

theorem BeginsSolid.append {text : List Char} (solid : BeginsSolid text) (after : List Char) :
    BeginsSolid (text ++ after) := by
  obtain ⟨first, found, plain⟩ := solid
  refine ⟨first, ?_, plain⟩
  rw [List.head?_append, found]
  rfl

theorem EndsSolid.append {text : List Char} (solid : EndsSolid text) (before : List Char) :
    EndsSolid (before ++ text) := by
  obtain ⟨last, found, plain⟩ := solid
  refine ⟨last, ?_, plain⟩
  rw [List.getLast?_append, found]
  rfl

theorem endsSolid_of_forall {text : List Char} (nonempty : text ≠ [])
    (solid : ∀ character ∈ text, isBlank character = false) : EndsSolid text :=
  ⟨text.getLast nonempty, List.getLast?_eq_some_getLast nonempty,
    solid _ (List.getLast_mem nonempty)⟩

theorem dropEndWhile_padded {test : Char → Bool} {mark : Char} (marks : test mark = true)
    (text : List Char) (count : Nat) :
    dropEndWhile test (text ++ List.replicate count mark) = dropEndWhile test text := by
  induction count with
  | zero => simp
  | succ count ih =>
      rw [List.replicate_succ', ← List.append_assoc]
      exact (List.rdropWhile_concat_pos test _ _ marks).trans ih

theorem EndsSolid.dropEndWhile_eq {text : List Char} (solid : EndsSolid text) {test : Char → Bool}
    (blanks : ∀ character, test character = true → isBlank character = true) :
    dropEndWhile test text = text := by
  obtain ⟨last, found, plain⟩ := solid
  refine List.rdropWhile_eq_self_iff.mpr fun nonempty tested => ?_
  rw [List.getLast?_eq_some_getLast nonempty, Option.some.injEq] at found
  rw [found] at tested
  simp [blanks last tested] at plain

theorem EndsSolid.trimEnd_padded {text : List Char} (solid : EndsSolid text) (count : Nat) :
    trimEnd (text ++ List.replicate count ' ') = text := by
  rw [trimEnd, dropEndWhile_padded (by decide)]
  exact solid.dropEndWhile_eq fun _ blank => blank

theorem BeginsSolid.dropBlanks_padded {text : List Char} (solid : BeginsSolid text) (count : Nat) :
    dropBlanks (List.replicate count ' ' ++ text) = text := by
  obtain ⟨first, found, plain⟩ := solid
  obtain ⟨rest, rfl⟩ := List.head?_eq_some_iff.mp found
  have blanks : ∀ mark ∈ List.replicate count ' ', isBlank mark = true := by
    intro mark member
    rw [(List.mem_replicate.mp member).2]
    decide
  rw [dropBlanks, List.dropWhile_append_of_pos blanks]
  simp [plain]

theorem trim_padded {text : List Char} (begins : BeginsSolid text) (ends : EndsSolid text)
    (before after : Nat) :
    trim (List.replicate before ' ' ++ (text ++ List.replicate after ' ')) = text := by
  rw [trim, (begins.append _).dropBlanks_padded, ends.trimEnd_padded]

theorem trim_solid {text : List Char} (begins : BeginsSolid text) (ends : EndsSolid text) :
    trim text = text := by
  simpa using trim_padded begins ends 0 0

theorem IsWord.space_notMem {text : List Char} (isWord : IsWord text) : ' ' ∉ text := by
  intro member
  have plain := isWord.2 ' ' member
  contradiction

theorem IsWord.beginsSolid {text : List Char} (isWord : IsWord text) : BeginsSolid text :=
  ⟨text.head isWord.1, List.head?_eq_some_head isWord.1, isWord.2 _ (List.head_mem isWord.1)⟩

theorem IsWord.endsSolid {text : List Char} (isWord : IsWord text) : EndsSolid text :=
  endsSolid_of_forall isWord.1 isWord.2

end AutoReply.Text
