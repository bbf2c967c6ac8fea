import AutoReply.Proofs.Pattern.Threads

/-!
What it means that a pattern matches part of a text, and that the search finds just these parts when
the pattern repeats nothing but single characters.
-/

namespace AutoReply.Pattern

def Language.repeated (language : Language) : Nat → Language
  | 0, _, inside, _ => inside = []
  | count + 1, before, inside, after =>
      ∃ first others, inside = first ++ others ∧ language before first (others ++ after) ∧
        language.repeated count (before ++ first) others after

def Node.Matches : Node → Language
  | empty, _, inside, _ => inside = []
  | one set, _, inside, _ => ∃ character, inside = [character] ∧ set.has character.toNat = true
  | check assertion, before, inside, after =>
      inside = [] ∧ assertion.holds (.between before after) = true
  | group _ body, before, inside, after => body.Matches before inside after
  | seq first second, before, inside, after =>
      ∃ left right, inside = left ++ right ∧ first.Matches before left (right ++ after) ∧
        second.Matches (before ++ left) right after
  | either first second, before, inside, after =>
      first.Matches before inside after ∨ second.Matches before inside after
  | loop body least most _, before, inside, after =>
      ∃ count, least ≤ count ∧ (∀ bound, most = some bound → count ≤ bound) ∧
        Language.repeated body.Matches count before inside after

/-- Only single characters are repeated, and only by question marks, stars and plus signs. -/
inductive Node.Plain : Node → Prop
  | empty : Plain .empty
  | one (set : CharSet) : Plain (.one set)
  | check (assertion : Assertion) : Plain (.check assertion)
  | group (index : Nat) {body : Node} (plain : Plain body) : Plain (.group index body)
  | seq {first second : Node} (left : Plain first) (right : Plain second) :
      Plain (.seq first second)
  | either {first second : Node} (left : Plain first) (right : Plain second) :
      Plain (.either first second)
  | optional (set : CharSet) (greedy : Bool) : Plain (.loop (.one set) 0 (some 1) greedy)
  | star (set : CharSet) (greedy : Bool) : Plain (.loop (.one set) 0 none greedy)
  | plus (set : CharSet) (greedy : Bool) : Plain (.loop (.one set) 1 none greedy)

/-! Single characters, and repetitions of them. -/

def Language.run (set : CharSet) (least : Nat) (most : Option Nat) : Language :=
  fun _ inside _ => least ≤ inside.length ∧ (∀ bound, most = some bound → inside.length ≤ bound) ∧
    ∀ character ∈ inside, set.has character.toNat = true

theorem repeated_one (set : CharSet) (count : Nat) (before inside after : List Char) :
    Language.repeated (Node.one set).Matches count before inside after ↔
      inside.length = count ∧ ∀ character ∈ inside, set.has character.toNat = true := by
  induction count generalizing before inside with
  | zero => simp +contextual [Language.repeated]
  | succ count ih =>
      rw [Language.repeated]
      constructor
      · rintro ⟨_, others, rfl, ⟨character, rfl, has⟩, behind⟩
        obtain ⟨long, all⟩ := (ih _ _).mp behind
        exact ⟨by simp [long], List.forall_mem_cons.mpr ⟨has, all⟩⟩
      · rintro ⟨long, all⟩
        cases inside with
        | nil => cases long
        | cons character others =>
            obtain ⟨has, rest⟩ := List.forall_mem_cons.mp all
            exact ⟨[character], others, rfl, ⟨character, rfl, has⟩,
              (ih _ _).mpr ⟨by simpa using long, rest⟩⟩

theorem matches_loop_one (set : CharSet) (least : Nat) (most : Option Nat) (greedy : Bool)
    (before inside after : List Char) :
    (Node.loop (.one set) least most greedy).Matches before inside after ↔
      Language.run set least most before inside after := by
  rw [Node.Matches]
  constructor
  · rintro ⟨count, enough, bounded, repeats⟩
    obtain ⟨rfl, all⟩ := (repeated_one set count before inside after).mp repeats
    exact ⟨enough, bounded, all⟩
  · rintro ⟨enough, bounded, all⟩
    exact ⟨inside.length, enough, bounded,
      (repeated_one set _ before inside after).mpr ⟨rfl, all⟩⟩

def along (set : CharSet) (offset : Nat) : List Char → List Cursor
  | [] => []
  | character :: rest =>
      if set.has character.toNat then
        ⟨offset + 1, some character, rest⟩ :: along set (offset + 1) rest
      else []

def inOrder (greedy : Bool) (threads : List Thread) : List Thread :=
  if greedy then threads.reverse else threads

theorem goOn_one (fork path : Path) (set : CharSet) (greedy : Bool)
    (groups : List (Nat × List Char)) (rest : List Char) (fuel offset : Nat)
    (previous : Option Char) (reached : Offsets) (found : List Thread) (enough : rest.length < fuel)
    (unreached : ∀ later, offset ≤ later → reached.contains later = false) :
    (goOn ((Node.one set).ends path) fork greedy fuel (reached, found)
        ⟨⟨offset, previous, rest⟩, groups, []⟩).2 =
      (inOrder greedy ((⟨offset, previous, rest⟩ :: along set offset rest).map fun cursor =>
        ⟨cursor, groups, [fork]⟩)).reverse ++ found := by
  -- Every round moves one character on, so no place is reached twice and the fuel lasts.
  induction rest generalizing fuel offset previous reached found with
  | nil =>
      cases fuel with
      | zero => omega
      | succ fuel =>
          cases greedy <;>
            simp [goOn, unreached offset, Thread.hasPassed, Thread.pass, Node.ends, along, inOrder]
  | cons character rest ih =>
      cases fuel with
      | zero => omega
      | succ fuel =>
          have later : ∀ later, offset + 1 ≤ later →
              (reached.insert offset).contains later = false := by
            intro later above
            rw [Offsets.contains_insert, unreached later (by omega)]
            simpa using show offset ≠ later by omega
          cases has : set.has character.toNat with
          | false =>
              cases greedy <;> simp [goOn, unreached offset, Thread.hasPassed, Thread.pass,
                Node.ends, along, inOrder, has]
          | true =>
              have step := fun found => ih fuel (offset + 1) (some character)
                (reached.insert offset) found (by simpa using enough) later
              cases greedy with
              | false =>
                  simpa [goOn, unreached offset, Thread.hasPassed, Thread.pass, Node.ends, along,
                    inOrder, has, Cursor.advance] using step
                      (⟨⟨offset, previous, character :: rest⟩, groups, [fork]⟩ :: found)
              | true =>
                  simpa [goOn, unreached offset, Thread.hasPassed, Thread.pass, Node.ends, along,
                    inOrder, has, Cursor.advance] using step found

theorem oneOrMore_one (fork path : Path) (set : CharSet) (greedy : Bool) (thread : Thread) :
    oneOrMore ((Node.one set).ends path) fork greedy thread =
      inOrder greedy ((along set thread.cursor.offset thread.cursor.rest).map fun cursor =>
        ⟨cursor, thread.groups, [fork]⟩) := by
  obtain ⟨⟨offset, previous, rest⟩, groups, passed⟩ := thread
  cases rest with
  | nil => cases greedy <;> simp [oneOrMore, Node.ends, along, inOrder]
  | cons character rest =>
      cases has : set.has character.toNat with
      | false => cases greedy <;> simp [oneOrMore, Node.ends, along, inOrder, has]
      | true =>
          have further := goOn_one fork path set greedy groups rest
            ((character :: rest).length + 1) (offset + 1) (some character) {} []
            (by simp only [List.length_cons]; omega) (by simp [Offsets.contains])
          have first : (Node.one set).ends path
              ⟨⟨offset, previous, character :: rest⟩, groups, passed⟩ =
                [⟨⟨offset + 1, some character, rest⟩, groups, []⟩] := by
            simp [Node.ends, has, Cursor.advance]
          rw [oneOrMore, first, List.foldl_cons, List.foldl_nil, further, List.append_nil,
            List.reverse_reverse, along, if_pos has]

theorem mem_along {set : CharSet} {before after : List Char} {cursor : Cursor} :
    cursor ∈ along set before.length after ↔ ∃ inside later, after = inside ++ later ∧
      Language.run set 1 none before inside later ∧
        cursor = .between (before ++ inside) later := by
  induction after generalizing before with
  | nil =>
      simp only [along, List.not_mem_nil, false_iff]
      rintro ⟨inside, later, split, ⟨long, _⟩, _⟩
      rw [(List.append_eq_nil_iff.mp split.symm).1] at long
      cases long
  | cons character rest ih =>
      have next := @ih (before ++ [character])
      rw [List.length_append, List.length_singleton] at next
      have here : Cursor.mk (before.length + 1) (some character) rest =
          .between (before ++ [character]) rest := by
        simp [Cursor.between]
      cases has : set.has character.toNat with
      | false =>
          simp only [along, has, Bool.false_eq_true, if_false, List.not_mem_nil, false_iff]
          rintro ⟨inside, later, split, ⟨long, _, all⟩, _⟩
          cases inside with
          | nil => cases long
          | cons first others =>
              cases split
              rw [(List.forall_mem_cons.mp all).1] at has
              cases has
      | true =>
          simp only [along, has, if_true, List.mem_cons, next, here]
          constructor
          · rintro (rfl | ⟨inside, later, rfl, ⟨_, _, all⟩, rfl⟩)
            · exact ⟨[character], rest, rfl, ⟨by simp, by simp, by simpa using has⟩, rfl⟩
            · refine ⟨character :: inside, later, rfl, ⟨by simp, by simp, ?_⟩, ?_⟩
              · exact List.forall_mem_cons.mpr ⟨has, all⟩
              · rw [List.append_assoc, List.singleton_append]
          · rintro ⟨inside, later, split, ⟨long, _, all⟩, rfl⟩
            cases inside with
            | nil => cases long
            | cons first others =>
                cases split
                cases others with
                | nil => exact .inl rfl
                | cons second others =>
                    refine .inr ⟨second :: others, later, rfl, ⟨by simp, by simp, ?_⟩, ?_⟩
                    · exact (List.forall_mem_cons.mp all).2
                    · rw [List.append_assoc, List.singleton_append]

namespace Covers

variable {path : Path} {thread : Thread} {before after : List Char} {endings : List Thread}
  {language : Language}

theorem inOrder (covers : Covers language path thread before after endings) (greedy : Bool) :
    Covers language path thread before after (Pattern.inOrder greedy endings) := by
  cases greedy with
  | false => exact covers
  | true => exact covers.reverse

theorem oneOrMore (path inner : Path) (index : Nat)
    (place : thread.cursor = .between before after) (set : CharSet) (greedy : Bool) :
    Covers (.run set 1 none) path thread before after
      (Pattern.oneOrMore ((Node.one set).ends inner) (index :: path) greedy thread) := by
  rw [oneOrMore_one, place]
  refine Covers.inOrder ⟨fun ending member => ?_, fun inside later split inLanguage => ?_,
    fun ending member fork passed => ?_⟩ greedy
  · obtain ⟨cursor, inside, rfl⟩ := List.mem_map.mp member
    exact mem_along.mp inside
  · exact ⟨_, List.mem_map_of_mem (mem_along.mpr ⟨inside, later, split, inLanguage, rfl⟩), rfl⟩
  · obtain ⟨cursor, _, rfl⟩ := List.mem_map.mp member
    rw [List.mem_singleton.mp passed]
    exact .inr (List.suffix_cons index path)

theorem one (path : Path) (place : thread.cursor = .between before after) (set : CharSet) :
    Covers (Node.one set).Matches path thread before after ((Node.one set).ends path thread) := by
  rw [Node.ends, place]
  cases after with
  | nil =>
      refine nil ?_
      rintro _ later split ⟨character, rfl, _⟩
      cases split
  | cons first rest =>
      cases has : set.has first.toNat with
      | false =>
          simp only [Cursor.between, has, Bool.false_eq_true, if_false]
          refine nil ?_
          rintro _ later split ⟨character, rfl, hasIt⟩
          cases split
          rw [has] at hasIt
          cases hasIt
      | true =>
          simp only [Cursor.between, has, if_true]
          refine ⟨fun ending member => ?_, ?_, fun ending member fork passed => ?_⟩
          · rw [List.mem_singleton.mp member]
            exact ⟨[first], rest, rfl, ⟨first, rfl, has⟩, by simp [Cursor.advance, Cursor.between]⟩
          · rintro _ later split ⟨character, rfl, _⟩
            cases split
            exact ⟨_, List.mem_singleton_self _, by simp [Cursor.advance, Cursor.between]⟩
          · rw [List.mem_singleton.mp member] at passed
            cases passed

end Covers

theorem foldl_options (step : Nat → Thread → List Thread) (fork : Nat → Path) (greedy : Bool)
    (index : Nat) (threads : List Thread) (reached : List Offsets) (found : List Thread) :
    threads.foldl (options step fork greedy 0 index) (reached, found) =
      (reached, threads.reverse ++ found) := by
  induction threads generalizing found with
  | nil => rfl
  | cons thread rest ih =>
      rw [List.foldl_cons, options, ih, List.reverse_cons, List.append_assoc,
        List.singleton_append]

theorem repetitions_optional (step : Nat → Thread → List Thread) (fork : Nat → Path)
    (greedy : Bool) {thread : Thread} (unpassed : thread.hasPassed (fork 0) = false) :
    repetitions step fork greedy 0 (some 1) thread =
      distinct (prefer greedy (step 0 (thread.pass (fork 0))) (thread.pass (fork 0))) := by
  rw [repetitions, copies, List.foldl_cons, List.foldl_nil, Nat.sub_zero, options]
  cases greedy <;> simp [unpassed, foldl_options, prefer, Offsets.contains]

namespace Covers

variable {path : Path} {thread : Thread} {before after : List Char}

theorem optional (fresh : thread.Fresh path) (place : thread.cursor = .between before after)
    (set : CharSet) (greedy : Bool) :
    Covers (.run set 0 (some 1)) path thread before after
      ((Node.loop (.one set) 0 (some 1) greedy).ends path thread) := by
  have placed : (thread.pass (1 :: path)).cursor = .between before after := place
  have step := (Covers.one (0 :: path) placed set).within.prefer placed greedy
  rw [Node.ends, repetitions_optional _ _ _ (fresh.child 1).hasPassed]
  refine (step.distinct.passing (List.suffix_cons 1 path)).congr fun inside later _ => ?_
  constructor
  · rintro (⟨character, rfl, has⟩ | rfl)
    · exact ⟨by simp, by simp, by simpa using has⟩
    · exact ⟨by simp, by simp, by simp⟩
  · rintro ⟨_, bounded, all⟩
    have short := bounded 1 rfl
    cases inside with
    | nil => exact .inr rfl
    | cons character others =>
        rw [List.length_cons] at short
        have none := List.length_eq_zero_iff.mp (show others.length = 0 by omega)
        exact .inl ⟨character, by rw [none], all character List.mem_cons_self⟩

theorem zeroOrMore (fresh : thread.Fresh path) (place : thread.cursor = .between before after)
    (set : CharSet) (greedy : Bool) :
    Covers (.run set 0 none) path thread before after
      ((Node.loop (.one set) 0 none greedy).ends path thread) := by
  have placed : (thread.pass (1 :: path)).cursor = .between before after := place
  have more := (Covers.oneOrMore path (0 :: path) 3 placed set greedy).prefer placed greedy
  rw [Node.ends, repetitions, Pattern.zeroOrMore, (fresh.child 1).hasPassed]
  refine (more.distinct.passing (List.suffix_cons 1 path)).congr fun inside later _ => ?_
  constructor
  · rintro (⟨_, unbounded, all⟩ | rfl)
    · exact ⟨Nat.zero_le _, unbounded, all⟩
    · exact ⟨by simp, by simp, by simp⟩
  · rintro ⟨_, unbounded, all⟩
    cases inside with
    | nil => exact .inr rfl
    | cons character others => exact .inl ⟨by simp, unbounded, all⟩

theorem oneOrMoreLoop (place : thread.cursor = .between before after) (set : CharSet)
    (greedy : Bool) :
    Covers (.run set 1 none) path thread before after
      ((Node.loop (.one set) 1 none greedy).ends path thread) := by
  rw [Node.ends, repetitions, copies, List.flatMap_singleton]
  exact (Covers.oneOrMore path (0 :: path) 3 place set greedy).distinct

end Covers

theorem Node.covers_ends {node : Node} (plain : node.Plain) {path : Path} {thread : Thread}
    (fresh : thread.Fresh path) {before after : List Char}
    (place : thread.cursor = .between before after) :
    Covers node.Matches path thread before after (node.ends path thread) := by
  induction plain generalizing path thread before after with
  | empty =>
      rw [ends]
      exact Covers.self place
  | one set => exact Covers.one path place set
  | check assertion =>
      rw [ends, place]
      split
      next holds =>
        refine (Covers.self place).congr fun inside later split => ?_
        refine ⟨?_, And.left⟩
        rintro rfl
        rw [List.nil_append] at split
        exact ⟨rfl, split ▸ holds⟩
      next fails =>
        refine Covers.nil ?_
        rintro _ later split ⟨rfl, holds⟩
        rw [List.nil_append] at split
        exact fails (split ▸ holds)
  | group index _ ih =>
      rw [ends]
      exact (ih (fresh.child 0) place).within.take index thread.cursor
  | seq _ _ ihFirst ihSecond =>
      rw [ends]
      have first := ihFirst (fresh.child 0) place
      -- The first node passes forks of its own only, so the second one starts without any.
      exact (first.within.flatMap fun middle member _ _ _ placed =>
        (ihSecond (first.fresh_sibling fresh (by decide) member) placed).within).distinct
  | either _ _ ihFirst ihSecond =>
      have placed : (thread.pass path).cursor = .between before after := place
      have first := (ihFirst (fresh.pass 0) placed).within
      have second := (ihSecond (fresh.pass 1) placed).within
      rw [ends, fresh.hasPassed]
      exact ((first.append second).distinct).passing (List.suffix_refl path)
  | optional set greedy =>
      exact (Covers.optional fresh place set greedy).congr
        fun _ _ _ => (matches_loop_one set 0 (some 1) greedy before _ _).symm
  | star set greedy =>
      exact (Covers.zeroOrMore fresh place set greedy).congr
        fun _ _ _ => (matches_loop_one set 0 none greedy before _ _).symm
  | plus set greedy =>
      exact (Covers.oneOrMoreLoop place set greedy).congr
        fun _ _ _ => (matches_loop_one set 1 none greedy before _ _).symm

/-! The search through a text. -/

variable {pattern : Pattern}

theorem isSome_matchAt_iff (plain : pattern.node.Plain) (before after : List Char) :
    (pattern.matchAt (.between before after)).isSome = true ↔
      ∃ inside later, after = inside ++ later ∧ pattern.node.Matches before inside later := by
  have fresh : (Thread.start (.between before after)).Fresh [] := fun _ member => nomatch member
  have covers : Covers _ [] (Thread.start (.between before after)) before after _ :=
    Node.covers_ends plain fresh rfl
  rw [matchAt, Option.isSome_map, Node.first?_eq_head?_ends, List.isSome_head?]
  constructor
  · intro nonempty
    obtain ⟨ending, member⟩ := List.exists_mem_of_ne_nil _ nonempty
    obtain ⟨inside, later, split, inLanguage, _⟩ := covers.placed ending member
    exact ⟨inside, later, split, inLanguage⟩
  · rintro ⟨inside, later, split, inLanguage⟩
    obtain ⟨ending, member, _⟩ := covers.found inside later split inLanguage
    exact List.ne_nil_of_mem member

theorem occursFrom_iff (plain : pattern.node.Plain) (rest before : List Char) :
    pattern.occursFrom before.length before.getLast? rest = true ↔
      ∃ skipped inside after, rest = skipped ++ (inside ++ after) ∧
        pattern.node.Matches (before ++ skipped) inside after := by
  induction rest generalizing before with
  | nil =>
      rw [occursFrom]
      refine (isSome_matchAt_iff plain before []).trans ?_
      constructor
      · rintro ⟨inside, later, split, inLanguage⟩
        exact ⟨[], inside, later, split, by rwa [List.append_nil]⟩
      · rintro ⟨skipped, inside, later, split, inLanguage⟩
        obtain ⟨rfl, split⟩ := List.append_eq_nil_iff.mp split.symm
        rw [List.append_nil] at inLanguage
        exact ⟨inside, later, split, inLanguage⟩
  | cons character rest ih =>
      have behind := ih (before ++ [character])
      rw [List.length_append, List.length_singleton, List.getLast?_concat] at behind
      rw [occursFrom, Bool.or_eq_true, behind]
      refine (or_congr_left (isSome_matchAt_iff plain before (character :: rest))).trans ?_
      constructor
      · rintro (⟨inside, later, split, inLanguage⟩ | ⟨skipped, inside, later, split, inLanguage⟩)
        · exact ⟨[], inside, later, split, by rwa [List.append_nil]⟩
        · rw [List.append_assoc, List.singleton_append] at inLanguage
          exact ⟨character :: skipped, inside, later, by rw [split, List.cons_append], inLanguage⟩
      · rintro ⟨skipped, inside, later, split, inLanguage⟩
        cases skipped with
        | nil =>
            rw [List.append_nil] at inLanguage
            exact .inl ⟨inside, later, split, inLanguage⟩
        | cons first skipped =>
            cases split
            refine .inr ⟨skipped, inside, later, rfl, ?_⟩
            rwa [List.append_assoc, List.singleton_append]

/-- A pattern occurs in a text that has a part which it matches. -/
theorem isMatch_iff (plain : pattern.node.Plain) (text : String) :
    pattern.isMatch text = true ↔ ∃ before inside after,
      text.toList = before ++ (inside ++ after) ∧ pattern.node.Matches before inside after := by
  have found := occursFrom_iff plain text.toList []
  rwa [List.length_nil, List.getLast?_nil] at found

end AutoReply.Pattern
