import Mathlib.Data.List.Nodup
import AutoReply.Proofs.Console.Mentions
import AutoReply.Proofs.Text.Trimming

/-!
Who is meant by the words with an at sign in the lines of a session. The guests are numbered in the
order in which they come up, and a number stands for one guest, however the name is written.
-/

namespace AutoReply.Console

open AutoReply.Chat AutoReply.Text

/-! The words that mention somebody, and the names in them. -/

def mentionsSomebody : List Char → Bool
  | '@' :: name => name.any isAlphanumeric
  | _ => false

/-- The name is what stands behind the at sign, from the first letter or digit to the last one. -/
structure Names (word : List Char) (name : String) : Prop where
  stripped : ∃ before after, word = '@' :: (before ++ (name.toList ++ after)) ∧
    ∀ character ∈ before ++ after, isAlphanumeric character = false
  first : ∃ first, name.toList.head? = some first ∧ isAlphanumeric first = true
  last : ∃ last, name.toList.getLast? = some last ∧ isAlphanumeric last = true

def strip (name : List Char) : List Char :=
  trimWhere (fun character => !isAlphanumeric character) name

theorem strip_split (name : List Char) : ∃ before after, name = before ++ (strip name ++ after) ∧
    ∀ character ∈ before ++ after, isAlphanumeric character = false := by
  obtain ⟨before, after, split, stripped⟩ :=
    trimWhere_split (fun character => !isAlphanumeric character) name
  refine ⟨before, after, split, ?_⟩
  simpa [or_imp, forall_and] using stripped

theorem mentionedName?_of_blank {name : List Char} (blank : strip name = []) :
    mentionedName? ('@' :: name) = none ∧ mentionsSomebody ('@' :: name) = false := by
  obtain ⟨before, after, split, stripped⟩ := strip_split name
  rw [blank, List.nil_append] at split
  refine ⟨?_, ?_⟩
  · change (if (strip name).isEmpty then none else some (String.ofList (strip name))) = none
    rw [blank]
    rfl
  · rw [mentionsSomebody, List.any_eq_false, split]
    simpa using stripped

theorem mentionedName?_of_name {name : List Char} (named : strip name ≠ []) :
    mentionedName? ('@' :: name) = some (String.ofList (strip name)) ∧
      mentionsSomebody ('@' :: name) = true ∧
      Names ('@' :: name) (String.ofList (strip name)) := by
  obtain ⟨before, after, split, stripped⟩ := strip_split name
  have first := head?_trimWhere (List.head?_eq_some_head named)
  have last := getLast?_trimWhere (List.getLast?_eq_some_getLast named)
  rw [Bool.not_eq_false'] at first last
  refine ⟨?_, ?_, ?_⟩
  · change (if (strip name).isEmpty then none else some (String.ofList (strip name))) = _
    rw [if_neg (by simpa using named)]
  · have inside : ∀ character ∈ strip name, character ∈ name := by
      intro character member
      rw [split]
      exact List.mem_append_right _ (List.mem_append_left _ member)
    exact List.any_eq_true.mpr ⟨_, inside _ (List.head_mem named), first⟩
  · constructor <;> rw [String.toList_ofList]
    case stripped => exact ⟨before, after, by rw [← split], stripped⟩
    case first => exact ⟨_, List.head?_eq_some_head named, first⟩
    case last => exact ⟨_, List.getLast?_eq_some_getLast named, last⟩

theorem mentionedName?_cases (word : List Char) :
    (∃ name, mentionedName? word = some name ∧ mentionsSomebody word = true ∧ Names word name) ∨
      mentionedName? word = none ∧ mentionsSomebody word = false := by
  cases word with
  | nil => exact .inr ⟨rfl, rfl⟩
  | cons mark name =>
      by_cases marked : mark = '@'
      · subst marked
        by_cases blank : strip name = []
        · exact .inr (mentionedName?_of_blank blank)
        · exact .inl ⟨_, mentionedName?_of_name blank⟩
      · exact .inr ⟨by simp [mentionedName?, marked], by simp [mentionsSomebody, marked]⟩

theorem names_filterMap (words : List (List Char)) :
    List.Forall₂ Names (words.filter mentionsSomebody) (words.filterMap mentionedName?) := by
  induction words with
  | nil => exact .nil
  | cons word words ih =>
      rcases mentionedName?_cases word with ⟨name, found, marked, names⟩ | ⟨none, unmarked⟩
      · rw [List.filter_cons_of_pos marked, List.filterMap_cons_some found]
        exact .cons names ih
      · simpa [none, unmarked] using ih

/-! The numbers of the guests in a whole session. -/

def mentionsInAll (bot : Bot) (known : KnownUsers) :
    List String → List (List Mention) × KnownUsers
  | [] => ([], known)
  | line :: lines =>
      let (mentions, next) := mentionsIn bot known line
      let (others, last) := mentionsInAll bot next lines
      (mentions :: others, last)

section

variable {bot : Bot} {known : KnownUsers} {seen : List String}

theorem names_mentionsOf (bot : Bot) (seen names : List String) :
    (mentionsOf bot seen names).map Mention.name = names := by
  rw [mentionsOf, List.map_map]
  exact List.map_id names

theorem mentionsOf_append {names : List String} (known : guests bot names ⊆ seen)
    (more : List String) : mentionsOf bot (seen ++ more) names = mentionsOf bot seen names := by
  refine List.map_congr_left fun name member => ?_
  rw [numberOf_append]
  refine List.Subset.trans ?_ known
  exact (((List.singleton_sublist.mpr member).filter _).map _).subset

theorem Knows.mentionsInAll (knows : Knows known seen) (bot : Bot) (lines : List String) :
    let later := seen ++ guests bot (lines.flatMap mentionedNames)
    (mentionsInAll bot known lines).1 = lines.map (fun line =>
        mentionsOf bot later (mentionedNames line)) ∧
      Knows (Console.mentionsInAll bot known lines).2 later := by
  induction lines generalizing known seen with
  | nil => simpa [Console.mentionsInAll, guests] using knows
  | cons line lines ih =>
      obtain ⟨mentions, knowsFirst⟩ := knows.identifyAll bot (mentionedNames line)
      obtain ⟨others, knowsAll⟩ := ih knowsFirst
      have split : seen ++ guests bot ((line :: lines).flatMap mentionedNames) =
          seen ++ guests bot (mentionedNames line) ++
            guests bot (lines.flatMap mentionedNames) := by
        rw [List.flatMap_cons, guests_append, List.append_assoc]
      have kept := mentionsOf_append
        (List.subset_append_right seen (guests bot (mentionedNames line)))
        (guests bot (lines.flatMap mentionedNames))
      dsimp only
      rw [List.map_cons, split, kept]
      exact ⟨congrArg₂ List.cons mentions others, knowsAll⟩

theorem nodup_eraseDups (seen : List String) : seen.eraseDups.Nodup := by
  induction seen using List.reverseRecOn with
  | nil => exact List.nodup_nil
  | append_singleton seen guest ih =>
      by_cases old : guest ∈ seen
      · rwa [eraseDups_seen old]
      · have new : guest ∉ seen.eraseDups := fun member => old (List.mem_eraseDups.mp member)
        rw [eraseDups_new old, ← List.concat_eq_append]
        exact ih.concat new

theorem eraseDups_getElem?_iff {guest : String} {count : Nat} :
    seen.eraseDups[count]? = some guest ↔ guest ∈ seen ∧ place seen guest = count := by
  unfold place
  constructor
  · intro found
    obtain ⟨inside, rfl⟩ := List.getElem?_eq_some_iff.mp found
    exact ⟨List.mem_eraseDups.mp (List.getElem_mem inside),
      (nodup_eraseDups seen).idxOf_getElem count inside⟩
  · rintro ⟨old, rfl⟩
    exact List.getElem?_idxOf (List.mem_eraseDups.mpr old)

theorem place_inj {guest other : String} (old : guest ∈ seen) :
    place seen guest = place seen other ↔ guest = other :=
  List.idxOf_inj (List.mem_eraseDups.mpr old)

theorem place_lt {guest : String} (old : guest ∈ seen) :
    place seen guest < seen.eraseDups.length :=
  List.idxOf_lt_length_iff.mpr (List.mem_eraseDups.mpr old)

theorem places_eraseDups (seen : List String) :
    seen.eraseDups.map (place seen) = List.range seen.eraseDups.length := by
  refine List.ext_getElem (by simp) fun count inside _ => ?_
  rw [List.getElem_map, List.getElem_range]
  exact (nodup_eraseDups seen).idxOf_getElem count (by simpa using inside)

theorem Knows.keys_perm (knows : Knows known seen) : known.keys.Perm seen.eraseDups := by
  refine (List.perm_ext_iff_of_nodup known.nodup_keys (nodup_eraseDups seen)).mpr fun guest => ?_
  rw [SortedMap.mem_keys_iff, List.mem_eraseDups, knows.lookup]
  split
  next old => simp [old]
  next new => simp [new]

theorem number_guestId {count : Nat} (fits : 1000 + count < UInt64.size) :
    (guestId count).number.toNat = 1000 + count := by
  have word : count < UInt64.size := Nat.lt_of_le_of_lt (Nat.le_add_left count 1000) fits
  rw [guestId, UInt64.toNat_add, UInt64.toNat_ofNat_of_lt' word]
  exact Nat.mod_eq_of_lt fits

end

def firstMentions (bot : Bot) (mentions : List Mention) : List String :=
  (guests bot (mentions.map Mention.name)).eraseDups

def IsBot (bot : Bot) (mention : Mention) : Prop :=
  equalIgnoringAsciiCase mention.name bot.name = true

/-- Who is meant in the lines of a session, and what is known of the guests behind them. -/
structure Numbers (bot : Bot) (lines : List String) (mentions : List (List Mention))
    (known : KnownUsers) : Prop where
  read : List.Forall₂ (fun line found => ∃ words, HasWords line.toList words ∧
    List.Forall₂ Names (words.filter mentionsSomebody) (found.map Mention.name)) lines mentions
  isBot : ∀ mention ∈ mentions.flatten, IsBot bot mention → mention.id = bot.id
  guest : ∀ mention ∈ mentions.flatten, ¬ IsBot bot mention →
    known.lookup (lower mention.name) = some mention.id
  alike : ∀ mention ∈ mentions.flatten, ∀ other ∈ mentions.flatten, ¬ IsBot bot mention →
    ¬ IsBot bot other → (mention.id = other.id ↔ lower mention.name = lower other.name)
  table : ∀ guest id, known.lookup guest = some id ↔
    ∃ place, (firstMentions bot mentions.flatten)[place]? = some guest ∧
      id.number.toNat = 1000 + place
  ids : (known.entries.map fun entry => entry.2.number.toNat).Perm (List.range' 1000 known.size)

section

variable {bot : Bot} {known : KnownUsers} {seen : List String} (knows : Knows known seen)

theorem lower_mem_guests {names : List String} {mention : Mention}
    (member : mention ∈ mentionsOf bot seen names) (guest : ¬ IsBot bot mention) :
    lower mention.name ∈ guests bot names ∧
      mention.id = guestId (place seen (lower mention.name)) := by
  obtain ⟨name, among, rfl⟩ := List.mem_map.mp member
  have other : equalIgnoringAsciiCase name bot.name = false := Bool.eq_false_iff.mpr guest
  refine ⟨List.mem_map_of_mem (List.mem_filter.mpr ⟨among, by simp [other]⟩), ?_⟩
  simp [numberOf, other]

theorem id_of_bot {names : List String} {mention : Mention}
    (member : mention ∈ mentionsOf bot seen names) (isBot : IsBot bot mention) :
    mention.id = bot.id := by
  obtain ⟨name, _, rfl⟩ := List.mem_map.mp member
  exact if_pos isBot

variable (fits : 1000 + known.size ≤ UInt64.size)

include knows fits

theorem number_of_seen {guest : String} (old : guest ∈ seen) :
    (guestId (place seen guest)).number.toNat = 1000 + place seen guest := by
  have below := place_lt old
  rw [← knows.size] at below
  exact number_guestId (by omega)

theorem guestId_eq_iff {guest : String} (old : guest ∈ seen) (id : UserId) :
    guestId (place seen guest) = id ↔ id.number.toNat = 1000 + place seen guest := by
  have number := number_of_seen knows fits old
  constructor
  · rintro rfl
    exact number
  · intro same
    cases id
    exact congrArg UserId.mk (UInt64.toNat_inj.mp (number.trans same.symm))

theorem guestId_inj {guest other : String} (old : guest ∈ seen) (oldOther : other ∈ seen) :
    guestId (place seen guest) = guestId (place seen other) ↔ guest = other := by
  rw [guestId_eq_iff knows fits old, number_of_seen knows fits oldOther, Nat.add_left_cancel_iff,
    place_inj oldOther, eq_comm]

theorem lookup_eq_some_iff {guest : String} {id : UserId} : known.lookup guest = some id ↔
    ∃ count, seen.eraseDups[count]? = some guest ∧ id.number.toNat = 1000 + count := by
  simp only [knows.lookup guest, eraseDups_getElem?_iff, and_assoc, exists_and_left,
    exists_eq_left']
  by_cases old : guest ∈ seen
  · simp [old, guestId_eq_iff knows fits old]
  · simp [old]

theorem ids_perm :
    (known.entries.map fun entry => entry.2.number.toNat).Perm (List.range' 1000 known.size) := by
  have numbers : known.entries.map (fun entry => entry.2.number.toNat) =
      (known.keys.map (place seen)).map (1000 + ·) := by
    rw [SortedMap.keys, List.map_map, List.map_map]
    refine List.map_congr_left fun entry member => ?_
    have found := knows.lookup entry.1
    rw [SortedMap.mem_entries_iff.mp member] at found
    split at found
    next old =>
      rw [Option.some.inj found]
      exact number_of_seen knows fits old
    next => contradiction
  rw [numbers, List.range'_eq_map_range, knows.size, ← places_eraseDups]
  exact (knows.keys_perm.map _).map _

end

/-- The words with an at sign in a session mean the bot or its guests, who are numbered from 1000 on
in the order in which they come up. No table in memory is so large that the numbers run out. -/
theorem guests_numbered_in_order {bot : Bot} {lines : List String}
    (fits : 1000 + (mentionsInAll bot .empty lines).2.size ≤ UInt64.size) :
    let (mentions, known) := mentionsInAll bot .empty lines
    Numbers bot lines mentions known := by
  obtain ⟨found, knows⟩ := knows_empty.mentionsInAll bot lines
  rw [List.nil_append] at found knows
  have flat : (mentionsInAll bot .empty lines).1.flatten =
      mentionsOf bot (guests bot (lines.flatMap mentionedNames))
        (lines.flatMap mentionedNames) := by
    rw [found, mentionsOf, List.map_flatMap, List.flatMap_def]
    rfl
  have firsts : firstMentions bot (mentionsInAll bot .empty lines).1.flatten =
      (guests bot (lines.flatMap mentionedNames)).eraseDups := by
    rw [firstMentions, flat, names_mentionsOf]
  constructor
  case read =>
    rw [found, List.forall₂_map_right_iff, List.forall₂_same]
    intro line _
    refine ⟨words line.toList, hasWords_iff.mpr rfl, ?_⟩
    rw [names_mentionsOf]
    exact names_filterMap _
  case isBot =>
    rw [flat]
    exact fun mention member => id_of_bot member
  case guest =>
    rw [flat]
    intro mention member guest
    obtain ⟨old, number⟩ := lower_mem_guests member guest
    rw [knows.lookup, if_pos old, number]
  case alike =>
    rw [flat]
    intro mention member other memberOther guest guestOther
    obtain ⟨old, number⟩ := lower_mem_guests member guest
    obtain ⟨oldOther, numberOther⟩ := lower_mem_guests memberOther guestOther
    rw [number, numberOther, guestId_inj knows fits old oldOther]
  case table =>
    rw [firsts]
    exact fun guest id => lookup_eq_some_iff knows fits
  case ids => exact ids_perm knows fits

def partyBot : Bot where
  id := ⟨7⟩
  name := "Amadeus"
  emoji? _ := none

def partyLines : List String :=
  ["hello @Mayuri and @okabe", "@AMADEUS and @MAYURI meet daru@home @ @Daru"]

theorem partyLines_numbered :
    let (mentions, known) := mentionsInAll partyBot .empty partyLines
    1000 + known.size ≤ UInt64.size ∧ Numbers partyBot partyLines mentions known ∧
      (mentions.map fun found => found.map fun mention => (mention.name, mention.id.number)) =
        [[("Mayuri", 1000), ("okabe", 1001)],
          [("AMADEUS", 7), ("MAYURI", 1000), ("Daru", 1002)]] := by
  have fits : 1000 + (mentionsInAll partyBot .empty partyLines).2.size ≤ UInt64.size := by
    decide +kernel
  exact ⟨fits, guests_numbered_in_order fits, by decide +kernel⟩

end AutoReply.Console
