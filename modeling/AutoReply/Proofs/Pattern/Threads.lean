import AutoReply.Pattern.Basic

/-!
Threads of a search by the places where they are: which parts of a text they have passed over, and
what the ways of joining threads make of these parts.
-/

namespace AutoReply.Pattern

def Cursor.between (before after : List Char) : Cursor :=
  ⟨before.length, before.getLast?, after⟩

/-- What can be matched, with the text before and after it. -/
abbrev Language := List Char → List Char → List Char → Prop

/-! Threads that have not passed a fork at or below a path. -/

def Thread.Fresh (thread : Thread) (path : Path) : Prop :=
  ∀ fork ∈ thread.passed, ¬ path <:+ fork

theorem eq_of_siblings {index sibling : Nat} {path fork : Path} (below : index :: path <:+ fork)
    (belowSibling : sibling :: path <:+ fork) : index = sibling := by
  have nested := List.suffix_of_suffix_length_le below belowSibling (Nat.le_refl _)
  exact (List.cons.inj (nested.eq_of_length rfl)).1

theorem not_suffix_tail (index : Nat) (path : Path) : ¬ index :: path <:+ path := by
  intro inside
  have short := inside.length_le
  rw [List.length_cons] at short
  omega

namespace Thread.Fresh

variable {thread : Thread} {path : Path}

theorem hasPassed (fresh : thread.Fresh path) : thread.hasPassed path = false := by
  rw [Thread.hasPassed, ← Bool.not_eq_true, List.contains_iff_mem]
  exact fun member => fresh path member (List.suffix_refl path)

theorem child (fresh : thread.Fresh path) (index : Nat) : thread.Fresh (index :: path) :=
  fun fork member inside => fresh fork member ((List.suffix_cons index path).trans inside)

theorem pass (fresh : thread.Fresh path) (index : Nat) :
    (thread.pass path).Fresh (index :: path) := by
  intro fork member
  rcases List.mem_cons.mp member with rfl | old
  · exact not_suffix_tail index fork
  · exact fresh.child index fork old

end Thread.Fresh

/-! Threads by the places where they are. -/

/-- From a thread in a place, the threads `endings` are where a part of the text ends that belongs
to the language; on the way they pass only forks at or below a path. -/
structure Covers (language : Language) (path : Path) (thread : Thread) (before after : List Char)
    (endings : List Thread) : Prop where
  placed : ∀ ending ∈ endings, ∃ inside later, after = inside ++ later ∧
    language before inside later ∧ ending.cursor = .between (before ++ inside) later
  found : ∀ inside later, after = inside ++ later → language before inside later →
    ∃ ending ∈ endings, ending.cursor = .between (before ++ inside) later
  passed : ∀ ending ∈ endings, ∀ fork ∈ ending.passed, fork ∈ thread.passed ∨ path <:+ fork

theorem distinctAfter_sublist (seen : Offsets) (threads : List Thread) :
    (distinctAfter seen threads).Sublist threads := by
  induction threads generalizing seen with
  | nil => exact .slnil
  | cons first rest ih =>
      rw [distinctAfter]
      split
      · exact (ih seen).cons first
      · exact (ih _).cons_cons first

theorem distinct_sublist (threads : List Thread) : (distinct threads).Sublist threads :=
  distinctAfter_sublist {} threads

theorem exists_mem_distinctAfter {thread : Thread} {threads : List Thread} (seen : Offsets)
    (unseen : seen.contains thread.cursor.offset = false) (member : thread ∈ threads) :
    ∃ other ∈ distinctAfter seen threads, other.cursor.offset = thread.cursor.offset := by
  induction threads generalizing seen with
  | nil => cases member
  | cons first rest ih =>
      rw [distinctAfter]
      split
      next old =>
        rcases List.mem_cons.mp member with rfl | later
        · rw [unseen] at old
          cases old
        · exact ih seen unseen later
      next =>
        by_cases same : first.cursor.offset = thread.cursor.offset
        · exact ⟨first, List.mem_cons_self, same⟩
        · have later : thread ∈ rest := by
            rcases List.mem_cons.mp member with rfl | later
            · exact absurd rfl same
            · exact later
          have stillUnseen : (seen.insert first.cursor.offset).contains thread.cursor.offset =
              false := by
            rw [Offsets.contains_insert, unseen]
            simpa using same
          obtain ⟨other, inside, equal⟩ := ih _ stillUnseen later
          exact ⟨other, List.mem_cons_of_mem _ inside, equal⟩

namespace Covers

variable {language other : Language} {path : Path} {thread : Thread} {before after : List Char}
  {endings : List Thread}

theorem cursor_eq (covers : Covers language path thread before after endings)
    {ending other : Thread} (member : ending ∈ endings) (otherMember : other ∈ endings)
    (sameOffset : ending.cursor.offset = other.cursor.offset) : ending.cursor = other.cursor := by
  obtain ⟨inside, later, split, _, place⟩ := covers.placed ending member
  obtain ⟨otherInside, otherLater, otherSplit, _, otherPlace⟩ := covers.placed other otherMember
  rw [place, otherPlace] at sameOffset
  simp only [Cursor.between, List.length_append] at sameOffset
  obtain ⟨sameInside, sameLater⟩ := List.append_inj (split.symm.trans otherSplit) (by omega)
  rw [place, otherPlace, sameInside, sameLater]

theorem distinct (covers : Covers language path thread before after endings) :
    Covers language path thread before after (Pattern.distinct endings) where
  placed ending member := covers.placed ending ((distinct_sublist endings).subset member)
  passed ending member := covers.passed ending ((distinct_sublist endings).subset member)
  found inside later split inLanguage := by
    obtain ⟨ending, member, place⟩ := covers.found inside later split inLanguage
    obtain ⟨kept, keptMember, sameOffset⟩ :=
      exists_mem_distinctAfter {} (by simp [Offsets.contains]) member
    refine ⟨kept, keptMember, ?_⟩
    rw [← place]
    exact covers.cursor_eq ((distinct_sublist endings).subset keptMember) member sameOffset

theorem congr (covers : Covers language path thread before after endings)
    (same : ∀ inside later, after = inside ++ later →
      (language before inside later ↔ other before inside later)) :
    Covers other path thread before after endings where
  placed ending member := by
    obtain ⟨inside, later, split, inLanguage, place⟩ := covers.placed ending member
    exact ⟨inside, later, split, (same inside later split).mp inLanguage, place⟩
  found inside later split inLanguage :=
    covers.found inside later split ((same inside later split).mpr inLanguage)
  passed := covers.passed

theorem self (place : thread.cursor = .between before after) :
    Covers (fun _ inside _ => inside = []) path thread before after [thread] where
  placed ending member := by
    rw [List.mem_singleton.mp member]
    exact ⟨[], after, rfl, rfl, by rw [place, List.append_nil]⟩
  found inside later split empty := by
    subst empty
    refine ⟨thread, List.mem_singleton_self _, ?_⟩
    rw [place, split, List.append_nil, List.nil_append]
  passed ending member fork passed := by
    rw [List.mem_singleton.mp member] at passed
    exact .inl passed

theorem nil (none : ∀ inside later, after = inside ++ later → ¬ language before inside later) :
    Covers language path thread before after [] where
  placed _ member := nomatch member
  found inside later split inLanguage := absurd inLanguage (none inside later split)
  passed _ member := nomatch member

theorem append {others : List Thread}
    (first : Covers language path thread before after endings)
    (second : Covers other path thread before after others) :
    Covers (fun before inside after => language before inside after ∨ other before inside after)
      path thread before after (endings ++ others) where
  placed ending member := by
    rcases List.mem_append.mp member with left | right
    · obtain ⟨inside, later, split, inLanguage, place⟩ := first.placed ending left
      exact ⟨inside, later, split, .inl inLanguage, place⟩
    · obtain ⟨inside, later, split, inLanguage, place⟩ := second.placed ending right
      exact ⟨inside, later, split, .inr inLanguage, place⟩
  found inside later split inEither := by
    rcases inEither with inLanguage | inLanguage
    · obtain ⟨ending, member, place⟩ := first.found inside later split inLanguage
      exact ⟨ending, List.mem_append_left _ member, place⟩
    · obtain ⟨ending, member, place⟩ := second.found inside later split inLanguage
      exact ⟨ending, List.mem_append_right _ member, place⟩
  passed ending member := by
    rcases List.mem_append.mp member with left | right
    · exact first.passed ending left
    · exact second.passed ending right

theorem reverse (covers : Covers language path thread before after endings) :
    Covers language path thread before after endings.reverse where
  placed ending member := covers.placed ending (List.mem_reverse.mp member)
  found inside later split inLanguage := by
    obtain ⟨ending, member, place⟩ := covers.found inside later split inLanguage
    exact ⟨ending, List.mem_reverse.mpr member, place⟩
  passed ending member := covers.passed ending (List.mem_reverse.mp member)

theorem take (covers : Covers language path thread before after endings) (index : Nat)
    (opened : Cursor) :
    Covers language path thread before after
      (endings.map fun ending => ending.take index opened) where
  placed ending member := by
    obtain ⟨other, inside, rfl⟩ := List.mem_map.mp member
    exact covers.placed other inside
  found inside later split inLanguage := by
    obtain ⟨ending, member, place⟩ := covers.found inside later split inLanguage
    exact ⟨_, List.mem_map_of_mem member, place⟩
  passed ending member := by
    obtain ⟨other, inside, rfl⟩ := List.mem_map.mp member
    exact covers.passed other inside

theorem within {index : Nat}
    (covers : Covers language (index :: path) thread before after endings) :
    Covers language path thread before after endings where
  placed := covers.placed
  found := covers.found
  passed ending member fork passed :=
    (covers.passed ending member fork passed).imp_right
      fun below => (List.suffix_cons index path).trans below

theorem passing {fork : Path} (below : path <:+ fork)
    (covers : Covers language path (thread.pass fork) before after endings) :
    Covers language path thread before after endings where
  placed := covers.placed
  found := covers.found
  passed ending member other passed := by
    rcases covers.passed ending member other passed with known | inside
    · rcases List.mem_cons.mp known with rfl | old
      · exact .inr below
      · exact .inl old
    · exact .inr inside

theorem prefer (more : Covers language path thread before after endings)
    (place : thread.cursor = .between before after) (greedy : Bool) :
    Covers (fun before inside after => language before inside after ∨ inside = []) path thread
      before after (Pattern.prefer greedy endings thread) := by
  cases greedy with
  | true => exact more.append (self place)
  | false => exact ((self place).append more).congr fun _ _ _ => or_comm

theorem flatMap {step : Thread → List Thread}
    (first : Covers language path thread before after endings)
    (second : ∀ middle ∈ endings, ∀ inside later, after = inside ++ later →
      middle.cursor = .between (before ++ inside) later →
        Covers other path middle (before ++ inside) later (step middle)) :
    Covers (fun before inside after => ∃ left right, inside = left ++ right ∧
        language before left (right ++ after) ∧ other (before ++ left) right after)
      path thread before after (endings.flatMap step) where
  placed ending member := by
    obtain ⟨middle, middleMember, endingMember⟩ := List.mem_flatMap.mp member
    obtain ⟨left, behind, split, inFirst, place⟩ := first.placed middle middleMember
    obtain ⟨right, later, splitBehind, inSecond, endingPlace⟩ :=
      (second middle middleMember left behind split place).placed ending endingMember
    subst splitBehind
    exact ⟨left ++ right, later, by rw [split, List.append_assoc], ⟨left, right, rfl, inFirst,
      inSecond⟩, by rw [endingPlace, List.append_assoc]⟩
  found inside later split inLanguage := by
    obtain ⟨left, right, rfl, inFirst, inSecond⟩ := inLanguage
    rw [List.append_assoc] at split
    obtain ⟨middle, middleMember, place⟩ := first.found left (right ++ later) split inFirst
    obtain ⟨ending, endingMember, endingPlace⟩ :=
      (second middle middleMember left _ split place).found right later rfl inSecond
    exact ⟨ending, List.mem_flatMap.mpr ⟨middle, middleMember, endingMember⟩,
      by rw [endingPlace, List.append_assoc]⟩
  passed ending member fork passed := by
    obtain ⟨middle, middleMember, endingMember⟩ := List.mem_flatMap.mp member
    obtain ⟨left, behind, split, _, place⟩ := first.placed middle middleMember
    rcases (second middle middleMember left behind split place).passed ending endingMember fork
      passed with known | below
    · exact first.passed middle middleMember fork known
    · exact .inr below

theorem fresh_sibling {index sibling : Nat}
    (covers : Covers language (index :: path) thread before after endings)
    (fresh : thread.Fresh path) (different : index ≠ sibling) {ending : Thread}
    (member : ending ∈ endings) : ending.Fresh (sibling :: path) := by
  intro fork passed inside
  rcases covers.passed ending member fork passed with known | below
  · exact fresh.child sibling fork known inside
  · exact different (eq_of_siblings below inside)

end Covers

end AutoReply.Pattern
