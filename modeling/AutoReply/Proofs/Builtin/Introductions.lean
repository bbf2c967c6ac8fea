import AutoReply.Proofs.Builtin.Table
import AutoReply.Proofs.Pattern.Preference
import AutoReply.Proofs.Pattern.Replacing

/-!
The rule that answers those who say who they are. In every line of the message in which someone
does, the last name stands in the answer, and the other lines are repeated.
-/

namespace AutoReply.Builtin

open AutoReply.Chat AutoReply.Pattern AutoReply.Rule AutoReply.Text

/-! What a line says. -/

def IsIm (word : List Char) : Prop :=
  ∃ i mark m, word = i :: (mark ++ [m, ' ']) ∧ i.toLower = 'i' ∧
    (mark = [] ∨ ∃ apostrophe ∈ apostrophes.toList, mark = [apostrophe]) ∧ m.toLower = 'm'

/-- Behind `lead`, which is nothing or ends in a space, the line says "I'm" and a name. -/
structure Introduction (line lead name : List Char) : Prop where
  apart : lead = [] ∨ lead.getLast? = some ' '
  spoken : ∃ word, IsIm word ∧ line = lead ++ (word ++ name)
  someone : name ≠ []

def LastIntroduction (line name : List Char) : Prop :=
  ∃ lead, Introduction line lead name ∧
    ∀ other otherName, Introduction line other otherName → other.length ≤ lead.length

inductive Answered : List Char → List Char → Prop
  | greeted {line name : List Char} : LastIntroduction line name →
      Answered line ("Hi ".toList ++ name ++ ", I'm dad!".toList)
  | repeated {line : List Char} : (∀ lead name, ¬ Introduction line lead name) →
      Answered line line

def SomeoneIntroduced (text : String) : Prop :=
  ∃ line ∈ lines text, ∃ lead name, Introduction line lead name

theorem isApostrophe_iff {mark : List Char} :
    IsApostrophe mark ↔ mark = [] ∨ ∃ apostrophe ∈ apostrophes.toList, mark = [apostrophe] := by
  have marks : apostrophes.toList ⊆ plainMarks := by decide
  refine or_congr_right (exists_congr fun apostrophe => and_congr_right fun known => ?_)
  rw [List.map_eq_singleton_iff]
  simp only [toLower_eq_mark_iff (marks known), exists_eq_right]

namespace IsIm

variable {word other name otherName : List Char}

theorem noLineFeed (isIm : IsIm word) : ∀ character ∈ word, character ≠ '\n' := by
  obtain ⟨i, mark, m, rfl, isI, marked, isM⟩ := isIm
  refine List.forall_mem_cons.mpr ⟨ne_lineFeed (by decide) isI, List.forall_mem_append.mpr
    ⟨noLineFeed_of_apostrophe (isApostrophe_iff.mpr marked), List.forall_mem_cons.mpr
      ⟨ne_lineFeed (by decide) isM, List.forall_mem_singleton.mpr (by decide)⟩⟩⟩

theorem append_ne_space (isIm : IsIm word) (name rest : List Char) :
    word ++ name ≠ ' ' :: rest := by
  obtain ⟨i, mark, m, rfl, isI, _⟩ := isIm
  rintro same
  rw [(List.cons.inj same).1] at isI
  exact absurd isI (by decide)

theorem eq_of_append (isIm : IsIm word) (isOther : IsIm other)
    (same : word ++ name = other ++ otherName) : name = otherName := by
  have all : apostrophes.toList.all (·.toLower != 'm') = true := by decide
  have unmarked {apostrophe : Char} (known : apostrophe ∈ apostrophes.toList) :
      apostrophe.toLower ≠ 'm' := bne_iff_ne.mp (List.all_eq_true.mp all apostrophe known)
  obtain ⟨i, mark, m, rfl, _, marked, isM⟩ := isIm
  obtain ⟨j, otherMark, n, rfl, _, otherMarked, isN⟩ := isOther
  rcases marked with rfl | ⟨apostrophe, known, rfl⟩ <;>
    rcases otherMarked with rfl | ⟨otherApostrophe, otherKnown, rfl⟩
  · cases same
    rfl
  · cases same
    exact absurd isM (unmarked otherKnown)
  · cases same
    exact absurd isN (unmarked known)
  · cases same
    rfl

end IsIm

theorem Introduction.eq_of_length {line lead name other otherName : List Char}
    (introduction : Introduction line lead name)
    (otherIntroduction : Introduction line other otherName) (same : lead.length = other.length) :
    name = otherName := by
  obtain ⟨word, isIm, split⟩ := introduction.spoken
  obtain ⟨otherWord, isOther, otherSplit⟩ := otherIntroduction.spoken
  obtain ⟨_, behind⟩ := List.append_inj (split.symm.trans otherSplit) same
  exact isIm.eq_of_append isOther behind

theorem LastIntroduction.unique {line name otherName : List Char}
    (last : LastIntroduction line name) (otherLast : LastIntroduction line otherName) :
    name = otherName := by
  obtain ⟨lead, introduction, longest⟩ := last
  obtain ⟨other, otherIntroduction, otherLongest⟩ := otherLast
  exact introduction.eq_of_length otherIntroduction
    (Nat.le_antisymm (otherLongest _ _ introduction) (longest _ _ otherIntroduction))

theorem Answered.unique {line answer other : List Char} (answered : Answered line answer)
    (otherAnswered : Answered line other) : answer = other := by
  cases answered with
  | greeted last =>
      cases otherAnswered with
      | greeted otherLast => rw [last.unique otherLast]
      | repeated nobody =>
          obtain ⟨lead, introduction, _⟩ := last
          exact absurd introduction (nobody _ _)
  | repeated nobody =>
      cases otherAnswered with
      | greeted last =>
          obtain ⟨lead, introduction, _⟩ := last
          exact absurd introduction (nobody _ _)
      | repeated _ => rfl

theorem Answered.last_of_greeted {line lead name other : List Char}
    (answered : Answered line ("Hi ".toList ++ name ++ ", I'm dad!".toList))
    (introduction : Introduction line lead other) : LastIntroduction line name := by
  generalize greeted : "Hi ".toList ++ name ++ ", I'm dad!".toList = answer at answered
  cases answered with
  | repeated nobody => exact absurd introduction (nobody lead other)
  | greeted last =>
      have sameName := (List.append_right_inj _).mp ((List.append_left_inj _).mp greeted)
      rwa [sameName]

/-! Which names the pattern finds. -/

def introductions : AutoReply.Pattern := ⟨dadPattern, introducing, []⟩

def beforeName : List Node :=
  [.group 1 (.either (letter ' ') (.check .lineStart)), letter 'i',
    .loop (.one (oneOf apostrophes)) 0 (some 1) true, letter 'm', letter ' ']

def Names : Outcomes :=
  beforeName.foldr Node.andThen (taking inLine 2)

theorem names_iff {before after : List Char} {found : Thread} :
    Names before after found ↔ ∃ gap word behind, after = gap ++ (word ++ behind) ∧
      (gap = [' '] ∨ gap = [] ∧ AtLineStart before) ∧ IsIm word ∧
        taking inLine 2 (before ++ gap ++ word) behind found := by
  have spaces (text : List Char) : text.map Char.toLower = [' '] ↔ text = [' '] := by
    rw [List.map_eq_singleton_iff]
    simp only [toLower_eq_mark_iff (show ' ' ∈ plainMarks by decide), exists_eq_right]
  simp only [Names, beforeName, List.foldr_cons, List.foldr_nil, Node.andThen, matches_gap, spaces,
    matches_letter (show 'i' ∈ plainCharacters by decide), matches_apostrophe, isApostrophe_iff,
    matches_letter (show 'm' ∈ plainCharacters by decide),
    matches_letter (show ' ' ∈ plainCharacters by decide),
    toLower_eq_mark_iff (show ' ' ∈ plainMarks by decide)]
  constructor
  · rintro ⟨gap, _, rfl, apart, _, _, rfl, ⟨i, rfl, isI⟩, mark, _, rfl, marked, _, _, rfl,
      ⟨m, rfl, isM⟩, _, behind, rfl, ⟨_, rfl, rfl⟩, takes⟩
    refine ⟨gap, i :: (mark ++ [m, ' ']), behind, by simp, apart, ⟨i, mark, m, rfl, isI, marked,
      isM⟩, ?_⟩
    simpa using takes
  · rintro ⟨gap, _, behind, rfl, apart, ⟨i, mark, m, rfl, isI, marked, isM⟩, takes⟩
    refine ⟨gap, _, rfl, apart, [i], _, by simp, ⟨i, rfl, isI⟩, mark, _, rfl, marked, [m], _,
      rfl, ⟨m, rfl, isM⟩, [' '], behind, rfl, ⟨_, rfl, rfl⟩, ?_⟩
    simpa using takes

/-! One line of a text. -/

def EndsLine (tail : List Char) : Prop :=
  tail = [] ∨ ∃ more, tail = '\n' :: more

section

variable {before line tail : List Char}

theorem split_line {part behind : List Char} (clean : ∀ character ∈ part, character ≠ '\n')
    (ends : EndsLine tail) (same : line ++ tail = part ++ behind) :
    ∃ rest, line = part ++ rest ∧ behind = rest ++ tail := by
  rcases List.append_eq_append_iff.mp same with ⟨beyond, rfl, rfl⟩ | ⟨rest, rfl, rfl⟩
  · -- the part cannot reach beyond the line, where a line feed would be in it
    cases beyond with
    | nil => exact ⟨[], by simp, rfl⟩
    | cons character beyond =>
        rcases ends with none | ⟨more, lineFeed⟩
        · cases none
        · exact absurd (List.cons.inj lineFeed).1 (clean character (by simp))
  · exact ⟨rest, rfl, rfl⟩

theorem runOf_line (clean : ∀ character ∈ line, character ≠ '\n') (ends : EndsLine tail) :
    inLine.runOf (line ++ tail) = line := by
  have lineFeed : inLine.has 10 = false :=
    (Bool.not_eq_true _).mp fun inside => (has_inLine '\n').mp inside rfl
  rw [CharSet.runOf, List.takeWhile_append_of_pos fun character member =>
    (has_inLine character).mpr (clean character member)]
  rcases ends with rfl | ⟨more, rfl⟩
  · simp
  · simp [lineFeed]

theorem taking_line {name : List Char} {found : Thread}
    (clean : ∀ character ∈ name, character ≠ '\n') (ends : EndsLine tail) :
    taking inLine 2 before (name ++ tail) found ↔
      name ≠ [] ∧ found.groups.lookup 2 = some name ∧
        found.cursor = .between (before ++ name) tail := by
  have run := runOf_line clean ends
  have behind : inLine.behindRun (name ++ tail) = tail := by
    have whole := inLine.runOf_append_behindRun (name ++ tail)
    rw [run] at whole
    exact List.append_cancel_left whole
  rw [taking, run, behind]

variable (clean : ∀ character ∈ line, character ≠ '\n') (ends : EndsLine tail)

include clean ends

theorem introduction_of_names {inside later : List Char} {found : Thread}
    (split : line ++ tail = inside ++ later) (cleanInside : ∀ character ∈ inside, character ≠ '\n')
    (names : Names (before ++ inside) later found) :
    ∃ gap name, (gap = [' '] ∨ gap = [] ∧ inside = []) ∧ Introduction line (inside ++ gap) name ∧
      found.groups.lookup 2 = some name ∧ found.cursor = .between (before ++ line) tail := by
  obtain ⟨gap, word, behind, rfl, apart, isIm, takes⟩ := names_iff.mp names
  have cleanGap : ∀ character ∈ gap, character ≠ '\n' := by
    rcases apart with rfl | ⟨rfl, _⟩
    · exact List.forall_mem_singleton.mpr (by decide)
    · exact nofun
  have cleanPart := List.forall_mem_append.mpr
    ⟨cleanInside, List.forall_mem_append.mpr ⟨cleanGap, isIm.noLineFeed⟩⟩
  obtain ⟨name, rfl, rfl⟩ := split_line cleanPart ends (by simpa using split)
  have cleanName := (List.forall_mem_append.mp clean).2
  obtain ⟨someone, taken, place⟩ := (taking_line cleanName ends).mp takes
  have gaps : gap = [' '] ∨ gap = [] ∧ inside = [] :=
    apart.imp_right (And.imp_right (atLineStart_append cleanInside))
  refine ⟨gap, name, gaps, ⟨?_, ⟨word, isIm, by simp⟩, someone⟩, taken, by simpa using place⟩
  rcases gaps with rfl | ⟨rfl, rfl⟩
  · exact .inr List.getLast?_concat
  · exact .inl rfl

theorem names_of_introduction (start : AtLineStart before) {lead name : List Char}
    (introduction : Introduction line lead name) :
    ∃ inside gap later found, lead = inside ++ gap ∧ (gap = [' '] ∨ gap = [] ∧ inside = []) ∧
      line ++ tail = inside ++ later ∧ (∀ character ∈ inside, character ≠ '\n') ∧
        Names (before ++ inside) later found := by
  obtain ⟨apart, ⟨word, isIm, rfl⟩, someone⟩ := introduction
  have cleanName := (List.forall_mem_append.mp (List.forall_mem_append.mp clean).2).2
  have takes (earlier : List Char) : taking inLine 2 earlier (name ++ tail)
      ⟨.between (earlier ++ name) tail, [(2, name)], []⟩ :=
    (taking_line cleanName ends).mpr ⟨someone, rfl, rfl⟩
  rcases apart with rfl | space
  · refine ⟨[], [], word ++ (name ++ tail), _, rfl, .inr ⟨rfl, rfl⟩, by simp, nofun,
      names_iff.mpr ⟨[], word, name ++ tail, rfl, .inr ⟨rfl, ?_⟩, isIm, takes _⟩⟩
    rwa [List.append_nil]
  · obtain ⟨inside, rfl⟩ := List.getLast?_eq_some_iff.mp space
    have cleanInside := (List.forall_mem_append.mp (List.forall_mem_append.mp clean).1).1
    exact ⟨inside, [' '], ' ' :: (word ++ (name ++ tail)), _, rfl, .inl rfl, by simp, cleanInside,
      names_iff.mpr ⟨[' '], word, name ++ tail, rfl, .inl rfl, isIm, takes _⟩⟩

end

/-- At the start of a line the pattern looks for a name behind runs of characters, the longest
first. -/
theorem search_introducing : ∃ path search, Seeks path search Names ∧
    ∀ before after, AtLineStart before →
      introducing.first? [] (.start (.between before after)) =
        ((Node.loop (.one inLine) 0 none true).ends (1 :: path)
          (.start (.between before after))).findSome? search := by
  have plain : ∀ node ∈ beforeName, node.Plain := by
    simp only [beforeName, List.forall_mem_cons, List.not_mem_nil, false_implies, implies_true,
      and_true]
    exact ⟨.group _ (.either (.one _) (.check _)), .one _, .optional _ _, .one _, .one _⟩
  obtain ⟨path, search, seeks, same⟩ := (seeks_taking inLine 2 [0] [1]).findSome?_foldl_seq plain
    (Node.Plain.seq (.check .lineStart) (.star inLine true))
  refine ⟨path, search, seeks, fun before after start => ?_⟩
  have row : introducing = .seq (beforeName.foldl .seq
      (.seq (.check .lineStart) (.loop (.one inLine) 0 none true)))
        (.group 2 (.loop (.one inLine) 1 none true)) := rfl
  rw [row, Node.first?, same _ before after rfl rfl,
    seeks.findSome?_seq (.check _) (.star _ _) rfl rfl, Node.ends, Thread.start,
    if_pos ((holds_lineStart before after).mpr start), List.findSome?_singleton]

section

variable {before line tail : List Char} (start : AtLineStart before)
  (clean : ∀ character ∈ line, character ≠ '\n') (ends : EndsLine tail)

include start clean ends

theorem last_of_longestRun {inside later : List Char} {found : Thread}
    (longest : LongestRun inLine Names before (line ++ tail) found inside later) :
    ∃ name, LastIntroduction line name ∧ found.groups.lookup 2 = some name ∧
      found.cursor = .between (before ++ line) tail := by
  have cleanInside : ∀ character ∈ inside, character ≠ '\n' := fun character member =>
    (has_inLine character).mp (longest.run character member)
  obtain ⟨gap, name, gaps, introduction, taken, place⟩ :=
    introduction_of_names clean ends longest.split cleanInside longest.outcome
  refine ⟨name, ⟨inside ++ gap, introduction, fun other otherName otherIntroduction => ?_⟩, taken,
    place⟩
  obtain ⟨otherInside, otherGap, otherLater, otherFound, rfl, otherGaps, otherSplit, cleanOther,
    otherNames⟩ := names_of_introduction clean ends start otherIntroduction
  have shorter := longest.longest otherInside otherLater otherFound otherSplit
    (fun character member => (has_inLine character).mpr (cleanOther character member)) otherNames
  rcases gaps with rfl | ⟨rfl, rfl⟩
  · have short : otherGap.length ≤ 1 := by rcases otherGaps with rfl | ⟨rfl, _⟩ <;> simp
    rw [List.length_append, List.length_append, List.length_singleton]
    omega
  · rcases otherGaps with rfl | ⟨rfl, rfl⟩
    · -- a line does not begin with the word and with a space
      obtain ⟨word, isIm, split⟩ := introduction.spoken
      obtain ⟨otherWord, _, splitOther⟩ := otherIntroduction.spoken
      rw [List.length_eq_zero_iff.mp (Nat.le_zero.mp shorter)] at splitOther
      exact absurd (split.symm.trans splitOther) (isIm.append_ne_space name _)
    · exact Nat.zero_le _

theorem matchAt_line :
    (∃ name found, introductions.matchAt (.between before (line ++ tail)) = some found ∧
      LastIntroduction line name ∧ found.groups.lookup 2 = some name ∧
        found.cursor = .between (before ++ line) tail) ∨
    (introductions.matchAt (.between before (line ++ tail)) = none ∧
      ∀ lead name, ¬ Introduction line lead name) := by
  obtain ⟨path, search, seeks, same⟩ := search_introducing
  have below : path <:+ 1 :: path := List.suffix_cons 1 path
  have searched : introductions.matchAt (.between before (line ++ tail)) =
      (((Node.loop (.one inLine) 0 none true).ends (1 :: path)
        (.start (.between before (line ++ tail)))).findSome? search).map fun ending =>
          ending.take 0 (.between before (line ++ tail)) :=
    congrArg (Option.map _) (same before (line ++ tail) start)
  rw [searched]
  cases result : ((Node.loop (.one inLine) 0 none true).ends (1 :: path)
      (.start (.between before (line ++ tail)))).findSome? search with
  | none =>
      refine .inr ⟨rfl, fun lead name introduction => ?_⟩
      obtain ⟨inside, _, later, found, _, _, split, cleanInside, names⟩ :=
        names_of_introduction clean ends start introduction
      have run : ∀ character ∈ inside, inLine.has character.toNat = true :=
        fun character member => (has_inLine character).mpr (cleanInside character member)
      exact seeks.no_run below rfl rfl result split run found names
  | some found =>
      obtain ⟨inside, later, longest⟩ := seeks.longestRun below rfl rfl result
      obtain ⟨name, last, taken, place⟩ := last_of_longestRun start clean ends longest
      exact .inl ⟨name, _, rfl, last, taken, place⟩

end

/-! All lines of a text. -/

theorem matchAt_of_not_lineStart {before : List Char} (inside : ¬ AtLineStart before)
    (after : List Char) : introductions.matchAt (.between before after) = none := by
  have plain : introductions.node.Plain := plain_introducing
  rw [← Option.not_isSome_iff_eq_none]
  intro found
  obtain ⟨part, later, _, inLanguage⟩ := (isSome_matchAt_iff plain before after).mp found
  exact inside ((matches_introducing before part later).mp inLanguage).1

theorem Introduction.line_ne_nil {line lead name : List Char}
    (introduction : Introduction line lead name) : line ≠ [] := by
  obtain ⟨word, _, rfl⟩ := introduction.spoken
  simp [introduction.someone]

theorem matchAt_lineEnd (before : List Char) {tail : List Char} (ends : EndsLine tail) :
    introductions.matchAt (.between before tail) = none := by
  by_cases start : AtLineStart before
  · rcases @matchAt_line before [] tail start nofun ends with ⟨_, _, _, last, _⟩ | ⟨none, _⟩
    · obtain ⟨_, introduction, _⟩ := last
      exact absurd rfl introduction.line_ne_nil
    · exact none
  · exact matchAt_of_not_lineStart start tail

theorem expand_dadReplacement {groups : List (Nat × List Char)} {name : List Char}
    (taken : groups.lookup 2 = some name) :
    expand [] groups dadReplacement.toList = "Hi ".toList ++ name ++ ", I'm dad!".toList := by
  have filled : expand [] groups dadReplacement.toList =
      "Hi ".toList ++ (groups.lookup 2).getD [] ++ ", I'm dad!".toList := rfl
  rw [filled, taken, Option.getD_some]

theorem replaces_line {before line tail result : List Char} (start : AtLineStart before)
    (clean : ∀ character ∈ line, character ≠ '\n') (ends : EndsLine tail)
    (rest : introductions.Replaces dadReplacement.toList (before ++ line) tail result) :
    ∃ answer, Answered line answer ∧
      introductions.Replaces dadReplacement.toList before (line ++ tail) (answer ++ result) := by
  rcases matchAt_line start clean ends with
    ⟨name, found, finds, last, taken, place⟩ | ⟨none, nobody⟩
  · have someLine : line ≠ [] := by
      obtain ⟨_, introduction, _⟩ := last
      exact introduction.line_ne_nil
    refine ⟨_, .greeted last, ?_⟩
    rw [← expand_dadReplacement taken]
    exact .filled someLine finds place rest
  · refine ⟨line, .repeated nobody, .kept (fun skipped character others split => ?_) rest⟩
    rw [split] at none clean
    rcases List.eq_nil_or_concat skipped with rfl | ⟨earlier, last, rfl⟩
    · rw [List.append_nil]
      rw [List.nil_append] at none
      exact none
    · refine matchAt_of_not_lineStart (fun atStart => ?_) _
      have cleanSkipped := (List.forall_mem_append.mp clean).1
      have nothing := atLineStart_append cleanSkipped atStart
      simp at nothing

theorem replaces_lines {lines : List (List Char)} (someLines : lines ≠ [])
    (clean : ∀ line ∈ lines, ∀ character ∈ line, character ≠ '\n') {before : List Char}
    (start : AtLineStart before) :
    ∃ answers, List.Forall₂ Answered lines answers ∧
      introductions.Replaces dadReplacement.toList before (join ['\n'] lines)
        (join ['\n'] answers) := by
  induction lines generalizing before with
  | nil => exact absurd rfl someLines
  | cons line lines ih =>
      obtain ⟨cleanLine, cleanLines⟩ := List.forall_mem_cons.mp clean
      cases lines with
      | nil =>
          have unmatched := matchAt_lineEnd (before ++ line) (.inl rfl)
          obtain ⟨answer, answered, replaces⟩ :=
            replaces_line start cleanLine (.inl rfl) (.nil unmatched)
          rw [List.append_nil, List.append_nil] at replaces
          exact ⟨[answer], .cons answered .nil, replaces⟩
      | cons next lines =>
          have nextStart : AtLineStart (before ++ line ++ ['\n']) := .inr ⟨_, rfl⟩
          have ends : EndsLine ('\n' :: join ['\n'] (next :: lines)) := .inr ⟨_, rfl⟩
          obtain ⟨answers, answeredLines, rest⟩ :=
            ih (List.cons_ne_nil _ _) cleanLines nextStart
          obtain ⟨answer, answered, replaces⟩ :=
            replaces_line start cleanLine ends (.copied (matchAt_lineEnd _ ends) rest)
          refine ⟨answer :: answers, .cons answered answeredLines, ?_⟩
          cases answeredLines with
          | cons _ _ => simpa [join] using replaces

/-! Answering a message. -/

theorem introduces_iff (text : String) : Introduces text ↔ SomeoneIntroduced text := by
  have isSpace_iff := toLower_eq_mark_iff (show ' ' ∈ plainMarks by decide)
  have endsInSpace (lead : List Char) :
      (lead.map Char.toLower).getLast? = some ' ' ↔ lead.getLast? = some ' ' := by
    rw [List.getLast?_map, Option.map_eq_some_iff]
    simp only [isSpace_iff, exists_eq_right]
  refine exists_congr fun line => and_congr_right fun _ => ?_
  constructor
  · rintro ⟨before, apostrophe, behind, same, apart, marked, someone⟩
    obtain ⟨lead, others, rfl, rfl, sameOthers⟩ := List.map_eq_append_iff.mp same
    obtain ⟨i, others, rfl, isI, sameRest⟩ := List.map_eq_cons_iff.mp sameOthers
    obtain ⟨mark, others, rfl, rfl, sameWord⟩ := List.map_eq_append_iff.mp sameRest
    obtain ⟨m, others, rfl, isM, sameSpace⟩ := List.map_eq_cons_iff.mp sameWord
    obtain ⟨space, name, rfl, isSpace, rfl⟩ := List.map_eq_cons_iff.mp sameSpace
    rw [isSpace_iff] at isSpace
    subst isSpace
    have isMark : IsApostrophe mark := marked.imp_left List.map_eq_nil_iff.mp
    exact ⟨lead, name, apart.imp List.map_eq_nil_iff.mp (endsInSpace lead).mp,
      ⟨_, ⟨i, mark, m, rfl, isI, isApostrophe_iff.mp isMark, isM⟩, by simp⟩,
      fun nobody => someone (by rw [nobody, List.map_nil])⟩
  · rintro ⟨lead, name, apart, ⟨_, ⟨i, mark, m, rfl, isI, marked, isM⟩, rfl⟩, someone⟩
    refine ⟨lead.map Char.toLower, mark.map Char.toLower, name.map Char.toLower, ?_,
      apart.imp List.map_eq_nil_iff.mpr (endsInSpace lead).mpr,
      (isApostrophe_iff.mpr marked).imp_left List.map_eq_nil_iff.mpr, by simp [someone]⟩
    simp [isI, isM, (isSpace_iff ' ').mpr]

theorem isMatch_introductions (text : String) :
    introductions.isMatch text = true ↔ SomeoneIntroduced text :=
  (isMatch_introducing dadPattern text).trans (introduces_iff text)

def introductionAnswer : Substitution := ⟨introductions, dadReplacement⟩

theorem exists_answers_of_introduced {text : String} (introduced : SomeoneIntroduced text) :
    ∃ answers, List.Forall₂ Answered (lines text) answers ∧
      introductionAnswer.render text = String.ofList (join ['\n'] answers) := by
  obtain ⟨answers, answered, replaces⟩ :=
    replaces_lines (lines_ne_nil text) (fun _ => noLineFeed_of_mem_lines) (.inl rfl)
  rw [join_lines] at replaces
  refine ⟨answers, answered, ?_⟩
  have replaced := replaces.replaceAll
  rw [String.ofList_toList] at replaced
  exact (if_pos ((isMatch_introductions text).mpr introduced)).trans replaced

theorem forall₂_answered_iff {texts answers : List (List Char)}
    (answered : List.Forall₂ Answered texts answers) (other : List (List Char)) :
    List.Forall₂ Answered texts other ↔ other = answers := by
  have unique : Relator.RightUnique Answered := fun _ _ _ first second => first.unique second
  exact ⟨fun otherAnswered => unique.forall₂ otherAnswered answered, fun same => same ▸ answered⟩

theorem render_eq_template_iff {text : String} (introduced : SomeoneIntroduced text) :
    introductionAnswer.render text = dadReplacement ↔
      ∃ line, lines text = [line] ∧ LastIntroduction line "$\x7b2\x7d".toList := by
  obtain ⟨answers, answered, rendered⟩ := exists_answers_of_introduced introduced
  have template : dadReplacement = String.ofList
      ("Hi ".toList ++ "$\x7b2\x7d".toList ++ ", I'm dad!".toList) := rfl
  rw [rendered, template, String.ofList_inj]
  constructor
  · intro same
    obtain ⟨line, member, lead, name, introduction⟩ := introduced
    rcases found : lines text with _ | ⟨first, _ | ⟨second, others⟩⟩ <;>
      rw [found] at answered member
    · cases member
    · rw [List.mem_singleton.mp member] at introduction
      obtain ⟨answer, _, answeredFirst, nothing, rfl⟩ := List.forall₂_cons_left_iff.mp answered
      rw [List.forall₂_nil_left_iff.mp nothing, join] at same
      exact ⟨first, rfl, (same ▸ answeredFirst).last_of_greeted introduction⟩
    · -- the answer to several lines has a line feed
      obtain ⟨answer, _, _, answeredRest, rfl⟩ := List.forall₂_cons_left_iff.mp answered
      obtain ⟨next, others, _, _, rfl⟩ := List.forall₂_cons_left_iff.mp answeredRest
      have lineFeed : '\n' ∈ join ['\n'] (answer :: next :: others) := by simp [join]
      rw [same] at lineFeed
      exact absurd lineFeed (by decide)
  · rintro ⟨line, alone, last⟩
    rw [alone] at answered
    rw [(forall₂_answered_iff answered _).mp (.cons (.greeted last) .nil) |>.symm]
    rfl

theorem attempts_introductionAnswer {rule : Response} {chance : Number.Binary64}
    (kind : rule.kind = .randomChance (.substitute introductionAnswer) chance) (platform : Platform)
    (luck : Luck) (event : MessageEvent) :
    ∀ attempt ∈ (rule.apply platform luck event).1.attempts,
      attempt.effect = .sendText event.channel (introductionAnswer.render event.text) := by
  have applied : rule.apply platform luck event = if Response.rollSucceeds luck chance then
      (Action.substitute introductionAnswer).apply platform luck event else ({}, none) := by
    rw [Response.apply, kind]
  rw [applied]
  by_cases lucky : Response.rollSucceeds luck chance = true
  · rw [if_pos lucky]
    exact List.forall_mem_singleton.mpr rfl
  · rw [if_neg lucky]
    exact fun _ none => absurd none List.not_mem_nil

def introductionRule : Response where
  name := "Dad Bot"
  trigger := .pattern introductions
  kind := .randomChance (.substitute introductionAnswer) defaultChance

theorem introductionRule_of_bare {rule : Response} (same : rule.bare = introductionRule.bare) :
    rule.name = "Dad Bot" ∧ rule.trigger = .pattern introductions ∧
      ∃ chance, rule.kind = .randomChance (.substitute introductionAnswer) chance := by
  have kinds : rule.kind.untuned = .randomChance (.substitute introductionAnswer) defaultChance :=
    congrArg Response.kind same
  refine ⟨congrArg Response.name same, Response.trigger_of_bare (.pattern introductions) same, ?_⟩
  cases kind : rule.kind with
  | randomChance action chance =>
      simp only [kind, ResponseKind.untuned, ResponseKind.randomChance.injEq, and_true] at kinds
      exact ⟨chance, by rw [kinds]⟩
  | _ => simp [kind, ResponseKind.untuned] at kinds

theorem exists_registry (bot : UserId) : ∃ rules, registry bot = .ok rules ∧
    introductionRule ∈ rules.responses ∧ (rules.responses.map Response.name).Nodup := by
  obtain ⟨rules, built, distinct, members⟩ := exists_built bot
  exact ⟨rules, built, members _ (List.mem_cons.mpr (.inl dad_built.symm)), distinct⟩

theorem introductionRule_of_named {rules : Registry} (member : introductionRule ∈ rules.responses)
    (distinct : (rules.responses.map Response.name).Nodup) (occurrences : List Occurrence)
    {rule : Response} (memberRule : rule ∈ (runRules occurrences rules).responses)
    (named : rule.name = "Dad Bot") :
    rule.trigger = .pattern introductions ∧
      ∃ chance, rule.kind = .randomChance (.substitute introductionAnswer) chance := by
  have same := bare_of_named member distinct occurrences memberRule named
  exact (introductionRule_of_bare same).2

theorem dispatch_introduction {rules : Registry} (member : introductionRule ∈ rules.responses)
    (distinct : (rules.responses.map Response.name).Nodup) (occurrences : List Occurrence)
    (platform : Platform) (luck : Luck) (event : MessageEvent)
    (fired : (dispatch platform luck event (runRules occurrences rules)).fired = some "Dad Bot") :
    SomeoneIntroduced event.text ∧
      ∀ attempt ∈ (dispatch platform luck event (runRules occurrences rules)).trace.attempts,
        attempt.effect = .sendText event.channel (introductionAnswer.render event.text) := by
  obtain ⟨rule, memberRule, named, matched, attempts⟩ := exists_fired fired
  obtain ⟨trigger, chance, kind⟩ :=
    introductionRule_of_named member distinct occurrences memberRule named
  rw [trigger] at matched
  rw [attempts]
  exact ⟨(isMatch_introductions event.text).mp matched,
    attempts_introductionAnswer kind platform luck event⟩

/-- With the pattern of the rule, a text in which someone is introduced becomes the answers to its
lines, and any other text the bare template. Whatever happens to the built-in rules, the one of this
name matches just the former texts, and sends nothing but what becomes of them. -/
theorem introductions_answered (bot : UserId) :
    ∃ pattern rules, compilePattern dadPattern = .ok pattern ∧ registry bot = .ok rules ∧
      (∀ text, SomeoneIntroduced text →
        (∃ answers,
          (∀ other, List.Forall₂ Answered (lines text) other ↔ other = answers) ∧
            (Substitution.mk pattern dadReplacement).render text =
              String.ofList (join ['\n'] answers)) ∧
          ((Substitution.mk pattern dadReplacement).render text = dadReplacement ↔
            ∃ line, lines text = [line] ∧ LastIntroduction line "$\x7b2\x7d".toList)) ∧
      (∀ text, ¬ SomeoneIntroduced text →
        (Substitution.mk pattern dadReplacement).render text = dadReplacement) ∧
      ∀ occurrences : List Occurrence,
        let later := runRules occurrences rules
        (∃ rule ∈ later.responses, rule.name = "Dad Bot") ∧
          (∀ rule ∈ later.responses, rule.name = "Dad Bot" → ∀ platform event,
            (rule.trigger.check platform event).matched = true ↔ SomeoneIntroduced event.text) ∧
          ∀ platform luck event, (dispatch platform luck event later).fired = some "Dad Bot" →
            SomeoneIntroduced event.text ∧
              ∀ attempt ∈ (dispatch platform luck event later).trace.attempts,
                attempt.effect = .sendText event.channel
                  ((Substitution.mk pattern dadReplacement).render event.text) := by
  obtain ⟨rules, built, member, distinct⟩ := exists_registry bot
  refine ⟨introductions, rules, ?compiled, built, fun text introduced => ⟨?rendered, ?template⟩,
    fun text nobody => ?unresolved, fun occurrences => ⟨?present, ?matched, ?sent⟩⟩
  case compiled =>
    rw [compilePattern, compile_dadPattern]
    rfl
  case rendered =>
    obtain ⟨answers, answered, rendered⟩ := exists_answers_of_introduced introduced
    exact ⟨answers, forall₂_answered_iff answered, rendered⟩
  case template => exact render_eq_template_iff introduced
  case unresolved => exact if_neg (nobody ∘ (isMatch_introductions text).mp)
  case present =>
    have bare := List.mem_map_of_mem (f := Response.bare) member
    rw [← bare_runRules occurrences rules] at bare
    obtain ⟨rule, memberRule, same⟩ := List.mem_map.mp bare
    exact ⟨rule, memberRule, (introductionRule_of_bare same).1⟩
  case matched =>
    intro rule memberRule named platform event
    rw [(introductionRule_of_named member distinct occurrences memberRule named).1]
    exact isMatch_introductions event.text
  case sent =>
    exact dispatch_introduction member distinct occurrences

example : introductionAnswer.render "Well,\nI'm sad im $1" = "Well,\nHi $1, I'm dad!" := by
  decide +kernel

end AutoReply.Builtin
