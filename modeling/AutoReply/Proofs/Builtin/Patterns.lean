import AutoReply.Builtin
import AutoReply.Proofs.Pattern.Matching
import AutoReply.Proofs.Text.Case
import AutoReply.Proofs.Text.Lines

/-!
The patterns of the built-in rules, and which texts they occur in.
-/

namespace AutoReply.Pattern

open AutoReply.Text

/-! Nodes in a row. -/

def Language.row : List Language → Language
  | [], _, inside, _ => inside = []
  | first :: others, before, inside, after =>
      ∃ left right, inside = left ++ right ∧ first before left (right ++ after) ∧
        Language.row others (before ++ left) right after

theorem matches_foldl_seq (nodes : List Node) (node : Node) (before inside after : List Char) :
    (nodes.foldl .seq node).Matches before inside after ↔
      Language.row ((node :: nodes).map Node.Matches) before inside after := by
  induction nodes generalizing node with
  | nil =>
      constructor
      · intro single
        exact ⟨inside, [], (List.append_nil inside).symm, single, rfl⟩
      · rintro ⟨left, _, rfl, single, rfl⟩
        rwa [List.append_nil]
  | cons second nodes ih =>
      rw [List.foldl_cons, ih]
      simp only [List.map_cons, Language.row, Node.Matches]
      constructor
      · rintro ⟨_, others, rfl, ⟨left, right, rfl, first, next⟩, behind⟩
        refine ⟨left, right ++ others, by rw [List.append_assoc], ?_, right, others, rfl, next, ?_⟩
        · rwa [List.append_assoc]
        · rwa [← List.append_assoc] at behind
      · rintro ⟨left, _, rfl, first, right, others, rfl, next, behind⟩
        refine ⟨left ++ right, others, by rw [List.append_assoc], ⟨left, right, rfl, ?_, next⟩, ?_⟩
        · rwa [List.append_assoc] at first
        · rwa [List.append_assoc] at behind

theorem matches_sequence (nodes : List Node) (before inside after : List Char) :
    (Reader.sequence nodes).Matches before inside after ↔
      Language.row (nodes.map Node.Matches) before inside after := by
  cases nodes with
  | nil => rfl
  | cons node nodes => exact matches_foldl_seq nodes node before inside after

/-! Characters whose case does not count. -/

/-- The characters for which ignoring case means to ignore it in ASCII. -/
def plainCharacters : List Char := plainLetters ++ plainMarks

theorem ne_lineFeed {plain character : Char} (known : plain ∈ plainCharacters)
    (same : character.toLower = plain) : character ≠ '\n' := by
  rintro rfl
  subst same
  exact absurd known (by decide)

theorem noLineFeed_of_map {text word : List Char}
    (known : word ⊆ plainCharacters)
    (same : text.map Char.toLower = word) : ∀ character ∈ text, character ≠ '\n' :=
  fun _ member => ne_lineFeed (known (same ▸ List.mem_map_of_mem member)) rfl

theorem has_folded_single {plain : Char} (known : plain ∈ plainCharacters) (character : Char) :
    (CharSet.folded (.single plain)).has character.toNat = true ↔ character.toLower = plain := by
  have hasSingle (point : Nat) :
      (CharSet.single plain).has point = true ↔ point = plain.toNat := by
    simp only [CharSet.has, CharSet.single, Ranges.has, List.any_cons, List.any_nil, Bool.or_false,
      Bool.and_eq_true, decide_eq_true_eq]
    omega
  rw [← variant_iff_toLower known, CharSet.has, Bool.or_eq_true, List.any_eq_true]
  simp only [hasSingle, exists_eq_right]

def letter (character : Char) : Node :=
  .one (.folded (.single character))

theorem row_letters {word : List Char} (known : word ⊆ plainCharacters)
    (others : List Language) (before inside after : List Char) :
    Language.row (word.map (fun character => (letter character).Matches) ++ others) before inside
        after ↔
      ∃ start rest, inside = start ++ rest ∧ start.map Char.toLower = word ∧
        Language.row others (before ++ start) rest after := by
  induction word generalizing before inside with
  | nil =>
      constructor
      · intro behind
        exact ⟨[], inside, rfl, rfl, by rwa [List.append_nil]⟩
      · rintro ⟨start, rest, rfl, same, behind⟩
        rw [List.map_eq_nil_iff] at same
        subst same
        rwa [List.append_nil] at behind
  | cons expected word ih =>
      obtain ⟨first, rest⟩ := List.cons_subset.mp known
      simp only [List.map_cons, List.cons_append, Language.row, ih rest]
      constructor
      · rintro ⟨_, _, rfl, ⟨character, rfl, has⟩, start, behind, rfl, same, matched⟩
        refine ⟨character :: start, behind, rfl, ?_, by rwa [List.append_assoc] at matched⟩
        rw [List.map_cons, same, (has_folded_single first character).mp has]
      · rintro ⟨start, behind, rfl, same, matched⟩
        obtain ⟨character, others, rfl, here, same⟩ := List.map_eq_cons_iff.mp same
        refine ⟨[character], others ++ behind, rfl,
          ⟨character, rfl, (has_folded_single first character).mpr here⟩, others, behind, rfl, same,
          by rwa [List.append_assoc]⟩

theorem holds_lineStart (before after : List Char) :
    Assertion.lineStart.holds (.between before after) = true ↔ AtLineStart before := by
  rcases List.eq_nil_or_concat before with rfl | ⟨earlier, last, rfl⟩
  · exact iff_of_true rfl (.inl rfl)
  · rw [List.concat_eq_append, Assertion.holds, Cursor.between, List.getLast?_concat,
      Option.all_some, beq_iff_eq, AtLineStart]
    constructor
    · rintro rfl
      exact .inr ⟨earlier, rfl⟩
    · rintro (none | ⟨other, same⟩)
      · exact absurd none (List.append_ne_nil_of_right_ne_nil earlier (List.cons_ne_nil _ _))
      · exact (List.cons.inj (List.append_inj' same rfl).2).1

/-! Words at the start of a line. -/

def starting (word : String) (last : Char) : Node :=
  Reader.sequence
    (.check .lineStart :: word.toList.map letter ++ [.loop (letter last) 0 none true])

theorem plain_sequence {nodes : List Node} (plain : ∀ node ∈ nodes, node.Plain) :
    (Reader.sequence nodes).Plain := by
  have foldl (nodes : List Node) (plain : ∀ node ∈ nodes, node.Plain) {node : Node}
      (first : node.Plain) : (nodes.foldl .seq node).Plain := by
    induction nodes generalizing node with
    | nil => exact first
    | cons second nodes ih =>
        obtain ⟨next, rest⟩ := List.forall_mem_cons.mp plain
        exact ih rest (.seq first next)
  cases nodes with
  | nil => exact .empty
  | cons node nodes =>
      obtain ⟨first, rest⟩ := List.forall_mem_cons.mp plain
      exact foldl nodes rest first

theorem plain_starting (word : String) (last : Char) : (starting word last).Plain := by
  refine plain_sequence fun node member => ?_
  rcases List.mem_append.mp member with inWord | inRepeat
  · rcases List.mem_cons.mp inWord with rfl | inLetters
    · exact .check _
    · obtain ⟨character, _, rfl⟩ := List.mem_map.mp inLetters
      exact .one _
  · rw [List.mem_singleton.mp inRepeat]
    exact .star _ _

theorem matches_starting {word : String}
    (known : word.toList ⊆ plainCharacters) (last : Char)
    (before inside after : List Char) :
    (starting word last).Matches before inside after ↔ AtLineStart before ∧
      ∃ start rest, inside = start ++ rest ∧ start.map Char.toLower = word.toList ∧
        Language.row [(Node.loop (letter last) 0 none true).Matches] (before ++ start) rest
          after := by
  rw [starting, matches_sequence, List.cons_append, List.map_cons, List.map_append, List.map_map,
    List.map_singleton, Language.row]
  constructor
  · rintro ⟨_, right, rfl, ⟨rfl, atStart⟩, behind⟩
    rw [List.append_nil] at behind
    exact ⟨(holds_lineStart _ _).mp atStart, (row_letters known _ _ _ _).mp behind⟩
  · rintro ⟨atStart, behind⟩
    refine ⟨[], inside, rfl, ⟨rfl, (holds_lineStart _ _).mpr atStart⟩, ?_⟩
    rw [List.append_nil]
    exact (row_letters known _ _ _ _).mpr behind

theorem isMatch_starting {word : String}
    (known : word.toList ⊆ plainCharacters) (last : Char)
    (source text : String) :
    (Pattern.mk source (starting word last) []).isMatch text = true ↔
      ∃ line ∈ lines text, word.toList <+: line.map Char.toLower := by
  rw [isMatch_iff (plain_starting word last)]
  simp only [matches_starting known]
  constructor
  · rintro ⟨before, _, after, split, atStart, start, rest, rfl, same, _⟩
    have clean := noLineFeed_of_map known same
    obtain ⟨line, member, begins⟩ := (exists_line_iff text start).mpr
      ⟨before, rest ++ after, by rw [split, List.append_assoc], atStart, clean⟩
    exact ⟨line, member, same ▸ begins.map Char.toLower⟩
  · rintro ⟨line, member, begins⟩
    obtain ⟨start, startsLine, same⟩ := List.prefix_map_iff.mp begins
    obtain ⟨before, after, split, atStart, _⟩ :=
      (exists_line_iff text start).mp ⟨line, member, startsLine⟩
    refine ⟨before, start, after, split, atStart, start, [], (List.append_nil start).symm,
      same.symm, [], [], rfl, ?_, rfl⟩
    exact (matches_loop_one _ 0 none true _ _ _).mpr ⟨Nat.le_refl 0, by simp, by simp⟩

/-! Sets of characters. -/

theorem matches_letter {plain : Char} (known : plain ∈ plainCharacters)
    (before inside after : List Char) :
    (letter plain).Matches before inside after ↔
      ∃ character, inside = [character] ∧ character.toLower = plain := by
  simp only [letter, Node.Matches, has_folded_single known]

def oneOf (characters : String) : CharSet :=
  characters.toList.foldl (fun set character => .union set (.folded (.single character)))
    (.folded .none)

theorem has_oneOf {characters : String}
    (known : characters.toList ⊆ plainCharacters) (character : Char) :
    (oneOf characters).has character.toNat = true ↔ character.toLower ∈ characters.toList := by
  have foldl (members : List Char) (known : members ⊆ plainCharacters)
      (set : CharSet) :
      (members.foldl (fun set member => .union set (.folded (.single member))) set).has
          character.toNat = true ↔
        set.has character.toNat = true ∨ character.toLower ∈ members := by
    induction members generalizing set with
    | nil => simp
    | cons member members ih =>
        obtain ⟨first, rest⟩ := List.cons_subset.mp known
        rw [List.foldl_cons, ih rest, CharSet.has, Bool.or_eq_true, has_folded_single first,
          List.mem_cons, or_assoc]
  have none : (CharSet.folded .none).has character.toNat = false := by
    simp [CharSet.has, CharSet.none, Ranges.has]
  rw [oneOf, foldl _ known, none]
  simp

/-! Meowing. -/

def meowing : Node :=
  Reader.sequence
    [letter 'm', .loop (.one (oneOf "re")) 1 none true, .loop (letter 'o') 1 none true,
      .loop (letter 'w') 1 none true, .loop (letter '~') 0 none true]

/-- Some m, then some of r and e, then some o, then some w. -/
def Meows (text : String) : Prop :=
  ∃ middle rounds howls, middle ≠ [] ∧ (∀ character ∈ middle, character ∈ "re".toList) ∧
    0 < rounds ∧ 0 < howls ∧
      'm' :: (middle ++ (List.replicate rounds 'o' ++ List.replicate howls 'w')) <:+:
        text.toList.map Char.toLower

theorem plain_meowing : meowing.Plain := by
  refine plain_sequence ?_
  simp only [List.forall_mem_cons, List.not_mem_nil, false_implies, implies_true, and_true]
  exact ⟨.one _, .plus _ _, .plus _ _, .plus _ _, .star _ _⟩

theorem matches_letters {plain : Char} (known : plain ∈ plainCharacters) (least : Nat)
    (before inside after : List Char) :
    (Node.loop (letter plain) least none true).Matches before inside after ↔
      least ≤ inside.length ∧ inside.map Char.toLower = List.replicate inside.length plain := by
  rw [letter, matches_loop_one, Language.run, List.map_eq_replicate_iff]
  simp only [has_folded_single known, reduceCtorEq, false_implies, implies_true, true_and]

theorem isMatch_meowing (source text : String) :
    (Pattern.mk source meowing []).isMatch text = true ↔ Meows text := by
  have members : "re".toList ⊆ plainCharacters := by decide
  rw [isMatch_iff plain_meowing]
  simp only [meowing, matches_sequence, List.map_cons, List.map_nil, Language.row,
    matches_letter (show 'm' ∈ plainCharacters by decide),
    matches_letters (show 'o' ∈ plainCharacters by decide),
    matches_letters (show 'w' ∈ plainCharacters by decide), matches_loop_one, Language.run,
    has_oneOf members]
  constructor
  · rintro ⟨before, _, after, split, _, _, rfl, ⟨m, rfl, small⟩, middle, _, rfl,
      ⟨someMiddle, _, inBrackets⟩, rounds, _, rfl, ⟨someRounds, allRounds⟩, howls, rest, rfl,
      ⟨someHowls, allHowls⟩, _⟩
    refine ⟨middle.map Char.toLower, rounds.length, howls.length, ?_, ?_, someRounds, someHowls, ?_⟩
    · rintro none
      rw [List.map_eq_nil_iff.mp none] at someMiddle
      cases someMiddle
    · intro character member
      obtain ⟨heard, inside, rfl⟩ := List.mem_map.mp member
      exact inBrackets heard inside
    · rw [← small, ← allRounds, ← allHowls, ← List.map_append, ← List.map_append, ← List.map_cons]
      refine List.IsInfix.map Char.toLower ⟨before, rest ++ after, ?_⟩
      simp [split]
  · rintro ⟨middle, rounds, howls, someMiddle, inBrackets, someRounds, someHowls, inside⟩
    obtain ⟨part, ⟨before, after, split⟩, same⟩ := List.infix_map_iff.mp inside
    obtain ⟨m, behind, rfl, small, sameBehind⟩ := List.map_eq_cons_iff.mp same.symm
    obtain ⟨heard, cries, rfl, rfl, sameCries⟩ := List.map_eq_append_iff.mp sameBehind
    obtain ⟨heardRounds, heardHowls, rfl, allRounds, allHowls⟩ :=
      List.map_eq_append_iff.mp sameCries
    have roundCount : heardRounds.length = rounds := by
      simpa using congrArg List.length allRounds
    have howlCount : heardHowls.length = howls := by
      simpa using congrArg List.length allHowls
    subst roundCount howlCount
    refine ⟨before, [m] ++ (heard ++ (heardRounds ++ heardHowls)), after, ?_, [m], _, rfl,
      ⟨m, rfl, small⟩, heard, _, rfl, ⟨?_, nofun, ?_⟩, heardRounds, heardHowls, rfl,
      ⟨someRounds, allRounds⟩, heardHowls, [], (List.append_nil _).symm, ⟨someHowls, allHowls⟩,
      [], [], rfl, ?_, rfl⟩
    · rw [← split, List.append_assoc]
      rfl
    · exact List.length_pos_iff.mpr fun none => someMiddle (by rw [none, List.map_nil])
    · exact fun character member => inBrackets _ (List.mem_map_of_mem member)
    · exact (matches_loop_one _ 0 none true _ _ _).mpr ⟨Nat.le_refl 0, nofun, nofun⟩

/-! Saying who one is. -/

def inLine : CharSet := .complement (.single '\n')

theorem has_inLine (character : Char) : inLine.has character.toNat = true ↔ character ≠ '\n' := by
  have single : (CharSet.single '\n').has character.toNat = true ↔ character = '\n' := by
    simp only [CharSet.has, CharSet.single, Ranges.has, List.any_cons, List.any_nil, Bool.or_false,
      Bool.and_eq_true, decide_eq_true_eq, ← Char.toNat_inj]
    omega
  rw [inLine, CharSet.has, Bool.not_eq_true', ← Bool.not_eq_true, single]

def apostrophes : String := "'‘ʼ’"

def introducing : Node :=
  Reader.sequence
    [.check .lineStart, .loop (.one inLine) 0 none true,
      .group 1 (.either (letter ' ') (.check .lineStart)), letter 'i',
      .loop (.one (oneOf apostrophes)) 0 (some 1) true, letter 'm', letter ' ',
      .group 2 (.loop (.one inLine) 1 none true)]

/-- At the start of a line or behind a space, some line goes on with i, perhaps an apostrophe, m, a
space and something more. -/
def Introduces (text : String) : Prop :=
  ∃ line ∈ lines text, ∃ before apostrophe behind,
    line.map Char.toLower = before ++ 'i' :: (apostrophe ++ 'm' :: ' ' :: behind) ∧
      (before = [] ∨ before.getLast? = some ' ') ∧
      (apostrophe = [] ∨ ∃ mark ∈ apostrophes.toList, apostrophe = [mark]) ∧ behind ≠ []

theorem plain_introducing : introducing.Plain := by
  refine plain_sequence ?_
  simp only [List.forall_mem_cons, List.not_mem_nil, false_implies, implies_true, and_true]
  exact ⟨.check _, .star _ _, .group _ (.either (.one _) (.check _)), .one _, .optional _ _, .one _,
    .one _, .group _ (.plus _ _)⟩

def IsApostrophe (text : List Char) : Prop :=
  text = [] ∨ ∃ mark ∈ apostrophes.toList, text.map Char.toLower = [mark]

theorem matches_apostrophe (before inside after : List Char) :
    (Node.loop (.one (oneOf apostrophes)) 0 (some 1) true).Matches before inside after ↔
      IsApostrophe inside := by
  have marks : apostrophes.toList ⊆ plainCharacters := by decide
  simp only [matches_loop_one, Language.run, has_oneOf marks]
  constructor
  · rintro ⟨_, short, all⟩
    match inside, short 1 rfl, all with
    | [], _, _ => exact .inl rfl
    | [mark], _, all => exact .inr ⟨_, all mark List.mem_cons_self, rfl⟩
    | _ :: _ :: _, short, _ => simp at short
  · rintro (rfl | ⟨mark, known, same⟩)
    · exact ⟨Nat.le_refl 0, by simp, nofun⟩
    · obtain ⟨character, rfl, rfl⟩ := List.map_eq_singleton_iff.mp same
      exact ⟨Nat.zero_le _, by simp, by simpa using known⟩

theorem matches_gap (before inside after : List Char) :
    (Node.group 1 (.either (letter ' ') (.check .lineStart))).Matches before inside after ↔
      inside.map Char.toLower = [' '] ∨ inside = [] ∧ AtLineStart before := by
  rw [Node.Matches, Node.Matches, matches_letter (by decide), Node.Matches, holds_lineStart,
    List.map_eq_singleton_iff]

theorem matches_lead (before inside after : List Char) :
    (Node.loop (.one inLine) 0 none true).Matches before inside after ↔
      ∀ character ∈ inside, character ≠ '\n' := by
  simp [matches_loop_one, Language.run, has_inLine]

theorem matches_name (before inside after : List Char) :
    (Node.group 2 (.loop (.one inLine) 1 none true)).Matches before inside after ↔
      inside ≠ [] ∧ ∀ character ∈ inside, character ≠ '\n' := by
  rw [Node.Matches, matches_loop_one, Language.run]
  simp [has_inLine, Nat.one_le_iff_ne_zero]

theorem matches_introducing (before inside after : List Char) :
    introducing.Matches before inside after ↔ AtLineStart before ∧ ∃ lead gap i mark m space name,
      inside = lead ++ (gap ++ i :: (mark ++ m :: space :: name)) ∧
        (∀ character ∈ lead, character ≠ '\n') ∧
        (gap.map Char.toLower = [' '] ∨ gap = [] ∧ AtLineStart (before ++ lead)) ∧
        i.toLower = 'i' ∧ IsApostrophe mark ∧ m.toLower = 'm' ∧ space.toLower = ' ' ∧
        name ≠ [] ∧ ∀ character ∈ name, character ≠ '\n' := by
  simp only [introducing, matches_sequence, List.map_cons, List.map_nil, Language.row, matches_lead,
    matches_gap, matches_letter (show 'i' ∈ plainCharacters by decide), matches_apostrophe,
    matches_letter (show 'm' ∈ plainCharacters by decide),
    matches_letter (show ' ' ∈ plainCharacters by decide), matches_name]
  constructor
  · rintro ⟨_, _, rfl, ⟨rfl, start⟩, lead, _, rfl, clean, gap, _, rfl, spaced, _, _, rfl,
      ⟨i, rfl, isI⟩, mark, _, rfl, marked, _, _, rfl, ⟨m, rfl, isM⟩, _, _, rfl,
      ⟨space, rfl, isSpace⟩, name, _, rfl, named, rfl⟩
    rw [List.append_nil] at spaced
    refine ⟨(holds_lineStart _ _).mp start, lead, gap, i, mark, m, space, name, ?_, clean, spaced,
      isI, marked, isM, isSpace, named⟩
    simp
  · rintro ⟨start, lead, gap, i, mark, m, space, name, rfl, clean, spaced, isI, marked, isM,
      isSpace, named⟩
    refine ⟨[], _, rfl, ⟨rfl, (holds_lineStart _ _).mpr start⟩, lead, _, rfl, clean, gap, _, rfl,
      ?_, [i], _, rfl, ⟨i, rfl, isI⟩, mark, _, rfl, marked, [m], _, rfl, ⟨m, rfl, isM⟩, [space], _,
      rfl, ⟨space, rfl, isSpace⟩, name, [], (List.append_nil name).symm, named, rfl⟩
    rwa [List.append_nil]

theorem atLineStart_append {before inside : List Char}
    (clean : ∀ character ∈ inside, character ≠ '\n') (start : AtLineStart (before ++ inside)) :
    inside = [] := by
  rcases List.eq_nil_or_concat inside with none | ⟨earlier, last, rfl⟩
  · exact none
  · rw [List.concat_eq_append, ← List.append_assoc] at start
    rcases start with none | ⟨other, same⟩
    · exact absurd none (List.append_ne_nil_of_right_ne_nil _ (List.cons_ne_nil _ _))
    · have lineFeed := (List.cons.inj (List.append_inj' same rfl).2).1
      exact absurd lineFeed (clean last (by simp))

theorem noLineFeed_of_apostrophe {text : List Char} (mark : IsApostrophe text) :
    ∀ character ∈ text, character ≠ '\n' := by
  rcases mark with rfl | ⟨mark, known, same⟩
  · exact nofun
  · have marks : apostrophes.toList ⊆ plainCharacters := by decide
    exact noLineFeed_of_map (List.cons_subset.mpr ⟨marks known, List.nil_subset _⟩) same

theorem isMatch_introducing (source text : String) :
    (Pattern.mk source introducing []).isMatch text = true ↔ Introduces text := by
  rw [isMatch_iff plain_introducing]
  simp only [matches_introducing]
  constructor
  · rintro ⟨before, inside, after, split, start, lead, gap, i, mark, m, space, name, rfl, clean,
      spaced, isI, marked, isM, isSpace, someName, cleanName⟩
    have cleanGap : ∀ character ∈ gap, character ≠ '\n' := by
      rcases spaced with space | ⟨rfl, _⟩
      · exact noLineFeed_of_map (by decide) space
      · exact nofun
    have cleanAll := List.forall_mem_append.mpr ⟨clean, List.forall_mem_append.mpr ⟨cleanGap,
      List.forall_mem_cons.mpr ⟨ne_lineFeed (by decide) isI,
        List.forall_mem_append.mpr ⟨noLineFeed_of_apostrophe marked,
          List.forall_mem_cons.mpr ⟨ne_lineFeed (by decide) isM,
            List.forall_mem_cons.mpr ⟨ne_lineFeed (by decide) isSpace, cleanName⟩⟩⟩⟩⟩⟩
    obtain ⟨line, member, rest, rfl⟩ :=
      (exists_line_iff text _).mpr ⟨before, after, split, start, cleanAll⟩
    refine ⟨_, member, (lead ++ gap).map Char.toLower, mark.map Char.toLower,
      (name ++ rest).map Char.toLower, ?_, ?_, ?_, ?_⟩
    · simp [isI, isM, isSpace]
    · rcases spaced with space | ⟨rfl, atStart⟩
      · rw [List.map_append, space, List.getLast?_concat]
        exact .inr rfl
      · rw [atLineStart_append clean atStart]
        exact .inl rfl
    · rcases marked with rfl | known
      · exact .inl rfl
      · exact .inr known
    · simp [someName]
  · rintro ⟨line, member, before, mark, behind, same, atStart, marked, named⟩
    obtain ⟨start, after, split, lineStart, clean⟩ :=
      (exists_line_iff text line).mp ⟨line, member, List.prefix_refl line⟩
    obtain ⟨lead, others, rfl, rfl, sameOthers⟩ := List.map_eq_append_iff.mp same
    obtain ⟨i, others, rfl, isI, sameRest⟩ := List.map_eq_cons_iff.mp sameOthers
    obtain ⟨apostrophe, others, rfl, rfl, sameWord⟩ := List.map_eq_append_iff.mp sameRest
    obtain ⟨m, others, rfl, isM, sameSpace⟩ := List.map_eq_cons_iff.mp sameWord
    obtain ⟨space, name, rfl, isSpace, rfl⟩ := List.map_eq_cons_iff.mp sameSpace
    obtain ⟨cleanLead, cleanRest⟩ := List.forall_mem_append.mp clean
    have cleanName : ∀ character ∈ name, character ≠ '\n' :=
      fun character inName => cleanRest character (by simp [inName])
    have isMark : IsApostrophe apostrophe := marked.imp_left List.map_eq_nil_iff.mp
    have someName : name ≠ [] := fun none => named (by rw [none, List.map_nil])
    rw [List.map_eq_nil_iff, List.getLast?_map, Option.map_eq_some_iff] at atStart
    rcases atStart with rfl | ⟨gap, last, isGap⟩
    · exact ⟨start, _, after, split, lineStart, [], [], i, apostrophe, m, space, name, rfl, nofun,
        .inr ⟨rfl, by rwa [List.append_nil]⟩, isI, isMark, isM, isSpace, someName, cleanName⟩
    · obtain ⟨earlier, rfl⟩ := List.getLast?_eq_some_iff.mp last
      refine ⟨start, _, after, split, lineStart, earlier, [gap], i, apostrophe, m, space, name, ?_,
        (List.forall_mem_append.mp cleanLead).1, .inl ?_, isI, isMark, isM, isSpace, someName,
        cleanName⟩
      · rw [List.append_assoc]
      · rw [List.map_singleton, isGap]

/-! The patterns as they are compiled. -/

open AutoReply.Builtin

theorem compile_dadPattern :
    Pattern.compile dadPattern = .ok ⟨dadPattern, introducing, []⟩ := rfl

theorem compile_greeting :
    Pattern.compile "^amadeus*" = .ok ⟨"^amadeus*", starting "amadeu" 's', []⟩ := rfl

theorem compile_hug : Pattern.compile "^\\.hug*" = .ok ⟨"^\\.hug*", starting ".hu" 'g', []⟩ := rfl

theorem compile_pat : Pattern.compile "^\\.pat*" = .ok ⟨"^\\.pat*", starting ".pa" 't', []⟩ := rfl

theorem compile_meow : Pattern.compile "m[re]+o+w+~*" = .ok ⟨"m[re]+o+w+~*", meowing, []⟩ := rfl

end AutoReply.Pattern
