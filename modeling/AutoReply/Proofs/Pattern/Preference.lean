import AutoReply.Proofs.Pattern.Matching

/-!
Which one of its matches a pattern prefers. A row of nodes takes the first way through its first
node behind which the others match, and a star takes the longest run behind which they do.
-/

namespace AutoReply.Pattern

/-! Searches that go on from a place. -/

/-- Since the last character the thread has passed only forks at or below a path. -/
def Thread.Within (thread : Thread) (path : Path) : Prop :=
  ∀ fork ∈ thread.passed, path <:+ fork

theorem Thread.Within.fresh_sibling {thread : Thread} {path : Path}
    (within : thread.Within (0 :: path)) : thread.Fresh (1 :: path) := by
  intro fork passed inside
  exact absurd (eq_of_siblings (within fork passed) inside) (by decide)

theorem Thread.within_of_unforked {thread : Thread} (unforked : thread.passed = [])
    (path : Path) : thread.Within path := by
  intro fork passed
  rw [unforked] at passed
  cases passed

theorem Thread.fresh_of_unforked {thread : Thread} (unforked : thread.passed = [])
    (path : Path) : thread.Fresh path := by
  intro fork passed
  rw [unforked] at passed
  cases passed

abbrev Outcomes := List Char → List Char → Thread → Prop

/-- From every place a search finds one of the outcomes, if there is any. It makes no difference by
which of the threads within the path the place is reached. -/
structure Seeks (path : Path) (search : Thread → Option Thread) (outcomes : Outcomes) : Prop where
  sound : ∀ {thread : Thread} {before after : List Char} {found : Thread}, thread.Within path →
    thread.cursor = .between before after → search thread = some found →
      outcomes before after found
  complete : ∀ {thread : Thread} {before after : List Char} {found : Thread}, thread.Within path →
    thread.cursor = .between before after → outcomes before after found → search thread ≠ none

def Node.andThen (node : Node) (outcomes : Outcomes) : Outcomes := fun before after found =>
  ∃ inside later, after = inside ++ later ∧ node.Matches before inside later ∧
    outcomes (before ++ inside) later found

theorem Covers.within_path {language : Language} {path : Path} {thread : Thread}
    {before after : List Char} {endings : List Thread}
    (covers : Covers language path thread before after endings) (within : thread.Within path)
    {ending : Thread} (member : ending ∈ endings) : ending.Within path := by
  intro fork passed
  exact (covers.passed ending member fork passed).elim (within fork) id

theorem Thread.Within.covers_sibling {thread : Thread} {path : Path}
    (within : thread.Within (0 :: path)) {node : Node} (plain : node.Plain)
    {before after : List Char} (place : thread.cursor = .between before after) :
    let endings := node.ends (1 :: path) thread
    Covers node.Matches path thread before after endings ∧
      ∀ ending ∈ endings, ending.Within path := by
  have covers := (node.covers_ends plain within.fresh_sibling place).within
  have withinPath : thread.Within path := fun fork passed =>
    (List.suffix_cons 0 path).trans (within fork passed)
  exact ⟨covers, fun ending member => covers.within_path withinPath member⟩

theorem findSome?_flatMap {α β γ : Type} (items : List α) (step : α → List β)
    (search : β → Option γ) :
    (items.flatMap step).findSome? search = items.findSome? fun item =>
      (step item).findSome? search := by
  simp only [← List.head?_filterMap, List.filterMap_flatMap, List.head?_flatMap]

theorem findSome?_distinctAfter {search : Thread → Option Thread} {threads : List Thread}
    (alike : ∀ first ∈ threads, ∀ second ∈ threads, first.cursor.offset = second.cursor.offset →
      search first = none → search second = none) (seen : Offsets)
    (vain : ∀ thread ∈ threads, seen.contains thread.cursor.offset = true → search thread = none) :
    (distinctAfter seen threads).findSome? search = threads.findSome? search := by
  induction threads generalizing seen with
  | nil => rfl
  | cons first rest ih =>
      have alikeRest := fun second member other memberOther =>
        alike second (List.mem_cons_of_mem _ member) other (List.mem_cons_of_mem _ memberOther)
      obtain ⟨vainFirst, vainRest⟩ := List.forall_mem_cons.mp vain
      rw [distinctAfter]
      split
      next old => rw [List.findSome?_cons, vainFirst old, ih alikeRest seen vainRest]
      next new =>
        rw [List.findSome?_cons, List.findSome?_cons]
        cases result : search first with
        | some found => rfl
        | none =>
            -- a thread that comes to the same place fails there as well
            refine ih alikeRest _ fun thread member contained => ?_
            rw [Offsets.contains_insert, Bool.or_eq_true, decide_eq_true_eq] at contained
            rcases contained with old | same
            · exact vainRest thread member old
            · exact alike first List.mem_cons_self thread (List.mem_cons_of_mem _ member) same
                result

namespace Seeks

variable {path : Path} {search : Thread → Option Thread} {outcomes : Outcomes}

theorem behind (seeks : Seeks path search outcomes) {node : Node} (plain : node.Plain) :
    Seeks (0 :: path) (fun thread => (node.ends (1 :: path) thread).findSome? search)
      (node.andThen outcomes) where
  sound within place finds := by
    obtain ⟨covers, withinPath⟩ := within.covers_sibling plain place
    obtain ⟨ending, member, found⟩ := List.exists_of_findSome?_eq_some finds
    obtain ⟨inside, later, split, inLanguage, there⟩ := covers.placed ending member
    exact ⟨inside, later, split, inLanguage, seeks.sound (withinPath ending member) there found⟩
  complete within place outcome none := by
    obtain ⟨covers, withinPath⟩ := within.covers_sibling plain place
    obtain ⟨inside, later, split, inLanguage, behind⟩ := outcome
    obtain ⟨ending, member, there⟩ := covers.found inside later split inLanguage
    exact seeks.complete (withinPath ending member) there behind
      (List.findSome?_eq_none_iff.mp none ending member)

theorem findSome?_distinct (seeks : Seeks path search outcomes) {language : Language}
    {origin : Path} {thread : Thread} {before after : List Char} {threads : List Thread}
    (covers : Covers language origin thread before after threads)
    (within : ∀ ending ∈ threads, ending.Within path) :
    (distinct threads).findSome? search = threads.findSome? search := by
  refine findSome?_distinctAfter (fun first member second memberSecond sameOffset none => ?_) {}
    (fun _ _ contained => ?_)
  · obtain ⟨inside, later, _, _, place⟩ := covers.placed second memberSecond
    have placeFirst := (covers.cursor_eq member memberSecond sameOffset).trans place
    cases result : search second with
    | none => rfl
    | some found =>
        have outcome := seeks.sound (within second memberSecond) place result
        exact absurd none (seeks.complete (within first member) placeFirst outcome)
  · simp [Offsets.contains] at contained

theorem findSome?_seq (seeks : Seeks path search outcomes) {first second : Node}
    (plainFirst : first.Plain) (plainSecond : second.Plain) {thread : Thread}
    (unforked : thread.passed = []) {before after : List Char}
    (place : thread.cursor = .between before after) :
    ((Node.seq first second).ends path thread).findSome? search =
      (first.ends (0 :: path) thread).findSome? fun middle =>
        (second.ends (1 :: path) middle).findSome? search := by
  have fresh := Thread.fresh_of_unforked unforked path
  have covers := first.covers_ends plainFirst (fresh.child 0) place
  have both := covers.within.flatMap fun middle member _ _ _ placed =>
    have freshBehind := covers.fresh_sibling fresh Nat.zero_ne_one member
    (second.covers_ends plainSecond freshBehind placed).within
  rw [Node.ends, seeks.findSome?_distinct both fun ending member =>
    both.within_path (Thread.within_of_unforked unforked path) member, findSome?_flatMap]

theorem findSome?_foldl_seq {nodes : List Node} (plain : ∀ node ∈ nodes, node.Plain) {node : Node}
    (plainNode : node.Plain) (seeks : Seeks path search outcomes) :
    ∃ inner searchOn, Seeks inner searchOn (nodes.foldr Node.andThen outcomes) ∧
      ∀ (thread : Thread) (before after : List Char), thread.passed = [] →
        thread.cursor = .between before after →
          ((nodes.foldl .seq node).ends path thread).findSome? search =
            (node.ends inner thread).findSome? searchOn := by
  induction nodes generalizing node with
  | nil => exact ⟨path, search, seeks, fun _ _ _ _ _ => rfl⟩
  | cons next nodes ih =>
      obtain ⟨plainNext, plainRest⟩ := List.forall_mem_cons.mp plain
      obtain ⟨inner, searchOn, seeksOn, same⟩ := ih plainRest (plainNode.seq plainNext)
      refine ⟨0 :: inner, _, seeksOn.behind plainNext, fun thread before after unforked place => ?_⟩
      rw [List.foldl_cons, same thread before after unforked place,
        seeksOn.findSome?_seq plainNode plainNext unforked place]

end Seeks

/-! The longest run first. -/

theorem lt_offset_of_mem_along {set : CharSet} {offset : Nat} {rest : List Char} {cursor : Cursor}
    (member : cursor ∈ along set offset rest) : offset < cursor.offset := by
  induction rest generalizing offset with
  | nil => cases member
  | cons character rest ih =>
      rw [along] at member
      split at member
      · rcases List.mem_cons.mp member with rfl | later
        · exact Nat.lt_succ_self offset
        · exact Nat.lt_of_succ_lt (ih later)
      · cases member

theorem pairwise_along (set : CharSet) (offset : Nat) (rest : List Char) :
    (along set offset rest).Pairwise fun earlier later => earlier.offset < later.offset := by
  induction rest generalizing offset with
  | nil => exact .nil
  | cons character rest ih =>
      rw [along]
      split
      · exact .cons (fun cursor member => lt_offset_of_mem_along member) (ih (offset + 1))
      · exact .nil

def Thread.Ahead (first second : Thread) : Prop :=
  second.cursor.offset < first.cursor.offset

theorem pairwise_star (set : CharSet) (path : Path) (thread : Thread) :
    ((Node.loop (.one set) 0 none true).ends path thread).Pairwise Thread.Ahead := by
  rw [Node.ends, repetitions, zeroOrMore]
  split
  · exact .nil
  · refine List.Pairwise.sublist (distinct_sublist _) ?_
    rw [prefer, if_pos rfl, oneOrMore_one, inOrder, if_pos rfl, List.pairwise_append]
    refine ⟨?_, List.pairwise_singleton _ _, fun ending member last memberLast => ?_⟩
    · rw [List.pairwise_reverse, List.pairwise_map]
      exact pairwise_along set _ _
    · rw [List.mem_reverse] at member
      obtain ⟨cursor, inside, rfl⟩ := List.mem_map.mp member
      rw [List.mem_singleton.mp memberLast]
      exact lt_offset_of_mem_along inside

theorem findSome?_of_ahead {threads : List Thread} (ahead : threads.Pairwise Thread.Ahead)
    {search : Thread → Option Thread} {found : Thread}
    (finds : threads.findSome? search = some found) :
    ∃ thread ∈ threads, search thread = some found ∧
      ∀ other ∈ threads, other.Ahead thread → search other = none := by
  obtain ⟨earlier, thread, later, rfl, result, missed⟩ := List.findSome?_eq_some_iff.mp finds
  obtain ⟨_, aheadLater, _⟩ := List.pairwise_append.mp ahead
  refine ⟨thread, by simp, result, fun other member further => ?_⟩
  rcases List.mem_append.mp member with before | behind
  · exact missed other before
  · rcases List.mem_cons.mp behind with rfl | behind
    · exact absurd further (Nat.lt_irrefl _)
    · exact absurd further (Nat.lt_asymm ((List.pairwise_cons.mp aheadLater).1 other behind))

/-- Of the runs of characters behind which there is an outcome, `inside` is the longest. -/
structure LongestRun (set : CharSet) (outcomes : Outcomes) (before after : List Char)
    (found : Thread) (inside later : List Char) : Prop where
  split : after = inside ++ later
  run : ∀ character ∈ inside, set.has character.toNat = true
  outcome : outcomes (before ++ inside) later found
  longest : ∀ longer rest other, after = longer ++ rest →
    (∀ character ∈ longer, set.has character.toNat = true) →
      outcomes (before ++ longer) rest other → longer.length ≤ inside.length

section

variable {path inner : Path} {thread : Thread} {before after : List Char}

theorem covers_star (below : path <:+ inner) (unforked : thread.passed = [])
    (place : thread.cursor = .between before after) (set : CharSet) :
    let endings := (Node.loop (.one set) 0 none true).ends inner thread
    Covers (.run set 0 none) inner thread before after endings ∧
      ∀ ending ∈ endings, ending.Within path := by
  have covers := Covers.zeroOrMore (Thread.fresh_of_unforked unforked inner) place set true
  have withinInner := Thread.within_of_unforked unforked inner
  exact ⟨covers, fun ending member fork passed =>
    below.trans (covers.within_path withinInner member fork passed)⟩

variable {search : Thread → Option Thread} {outcomes : Outcomes} {set : CharSet}

theorem Seeks.longestRun (seeks : Seeks path search outcomes) (below : path <:+ inner)
    (unforked : thread.passed = []) (place : thread.cursor = .between before after) {found : Thread}
    (finds : ((Node.loop (.one set) 0 none true).ends inner thread).findSome? search =
      some found) :
    ∃ inside later, LongestRun set outcomes before after found inside later := by
  obtain ⟨covers, within⟩ := covers_star below unforked place set
  obtain ⟨ending, member, result, further⟩ :=
    findSome?_of_ahead (pairwise_star set inner thread) finds
  obtain ⟨inside, later, split, ⟨_, _, run⟩, there⟩ := covers.placed ending member
  refine ⟨inside, later, split, run, seeks.sound (within ending member) there result, ?_⟩
  intro longer rest other splitLonger runLonger outcome
  obtain ⟨last, memberLast, placeLast⟩ :=
    covers.found longer rest splitLonger ⟨Nat.zero_le _, nofun, runLonger⟩
  refine Nat.le_of_not_lt fun isLonger => ?_
  refine seeks.complete (within last memberLast) placeLast outcome (further last memberLast ?_)
  rw [Thread.Ahead, there, placeLast]
  simp only [Cursor.between, List.length_append]
  omega

theorem Seeks.no_run (seeks : Seeks path search outcomes) (below : path <:+ inner)
    (unforked : thread.passed = []) (place : thread.cursor = .between before after)
    (finds : ((Node.loop (.one set) 0 none true).ends inner thread).findSome? search = none)
    {inside later : List Char} (split : after = inside ++ later)
    (run : ∀ character ∈ inside, set.has character.toNat = true) (found : Thread) :
    ¬ outcomes (before ++ inside) later found := by
  obtain ⟨covers, within⟩ := covers_star below unforked place set
  obtain ⟨ending, member, there⟩ := covers.found inside later split ⟨Nat.zero_le _, nofun, run⟩
  exact fun outcome => seeks.complete (within ending member) there outcome
    (List.findSome?_eq_none_iff.mp finds ending member)

end

/-! A group that takes all it can. -/

namespace CharSet

def runOf (set : CharSet) (text : List Char) : List Char :=
  text.takeWhile fun character => set.has character.toNat

def behindRun (set : CharSet) (text : List Char) : List Char :=
  text.dropWhile fun character => set.has character.toNat

theorem runOf_append_behindRun (set : CharSet) (text : List Char) :
    set.runOf text ++ set.behindRun text = text :=
  List.takeWhile_append_dropWhile

end CharSet

theorem getLast?_along (set : CharSet) (before after : List Char) :
    (along set before.length after).getLast? = if set.runOf after = [] then none else
      some (.between (before ++ set.runOf after) (set.behindRun after)) := by
  induction after generalizing before with
  | nil => rfl
  | cons character rest ih =>
      have next := ih (before ++ [character])
      rw [List.length_append, List.length_singleton] at next
      cases has : set.has character.toNat with
      | false => simp [along, CharSet.runOf, has]
      | true =>
          have run : set.runOf (character :: rest) = character :: set.runOf rest := by
            simp [CharSet.runOf, has]
          have behind : set.behindRun (character :: rest) = set.behindRun rest := by
            simp [CharSet.behindRun, has]
          rw [along, if_pos has, List.getLast?_cons, next, run, behind,
            if_neg (List.cons_ne_nil _ _)]
          split
          next alone =>
            have rest : set.behindRun rest = rest := by
              simpa [alone] using set.runOf_append_behindRun rest
            simp [alone, rest, Cursor.between]
          next => simp

def taking (set : CharSet) (index : Nat) : Outcomes := fun before after found =>
  set.runOf after ≠ [] ∧ found.groups.lookup index = some (set.runOf after) ∧
    found.cursor = .between (before ++ set.runOf after) (set.behindRun after)

theorem head?_plus (set : CharSet) (path : Path) {thread : Thread} {before after : List Char}
    (place : thread.cursor = .between before after) :
    ((Node.loop (.one set) 1 none true).ends path thread).head? =
      if set.runOf after = [] then none else
        some ⟨.between (before ++ set.runOf after) (set.behindRun after), thread.groups,
          [3 :: path]⟩ := by
  rw [Node.ends, repetitions, copies, List.flatMap_singleton, head?_distinct, oneOrMore_one,
    inOrder, if_pos rfl, List.head?_reverse, List.getLast?_map, place]
  show (along set before.length after).getLast?.map _ = _
  rw [getLast?_along]
  split <;> rfl

theorem first?_taking (set : CharSet) (index : Nat) (path : Path) {thread : Thread}
    {before after : List Char} (place : thread.cursor = .between before after) :
    (Node.group index (.loop (.one set) 1 none true)).first? path thread =
      if set.runOf after = [] then none else
        some ⟨.between (before ++ set.runOf after) (set.behindRun after),
          (index, set.runOf after) :: thread.groups, [3 :: 0 :: path]⟩ := by
  have taken : (Cursor.between before after).textTo
      (.between (before ++ set.runOf after) (set.behindRun after)) = set.runOf after := by
    simp only [Cursor.textTo, Cursor.between, List.length_append, Nat.add_sub_cancel_left]
    exact (congrArg _ (set.runOf_append_behindRun after)).symm.trans List.take_left
  rw [Node.first?, Node.first?_eq_head?_ends, head?_plus set (0 :: path) place, place]
  split
  · rfl
  · rw [Option.map_some, Thread.take, taken]

theorem seeks_taking (set : CharSet) (index : Nat) (path inner : Path) :
    Seeks path ((Node.group index (.loop (.one set) 1 none true)).first? inner)
      (taking set index) where
  sound {thread before after found} _ place finds := by
    rw [first?_taking set index inner place] at finds
    split at finds
    next => cases finds
    next nonempty =>
      cases finds
      exact ⟨nonempty, List.lookup_cons_self, rfl⟩
  complete {thread before after found} _ place outcome := by
    rw [first?_taking set index inner place, if_neg outcome.1]
    exact Option.some_ne_none _

end AutoReply.Pattern
