import AutoReply.Console.Mentions
import AutoReply.Proofs.SortedMap

/-!
Which number a mention gets. The number of a guest is the place of the name among those that have
come up before, in the order of their first mentions; only the bot has a number of its own.
-/

namespace AutoReply

namespace SortedMap

variable {κ α : Type} [DecidableEq κ] [Ord κ] [Std.LawfulEqOrd κ]

theorem length_insertEntry_of_absent {key : κ} (value : α) {entries : List (κ × α)}
    (absent : entries.lookup key = none) :
    (insertEntry key value entries).length = entries.length + 1 := by
  induction entries with
  | nil => rfl
  | cons entry rest ih =>
      rw [lookup_cons_eq] at absent
      split at absent
      next => contradiction
      next different =>
        rw [insertEntry]
        split
        next below => rfl
        next equal => exact absurd (Std.LawfulEqOrd.eq_of_compare equal) different
        next above => rw [List.length_cons, ih absent, List.length_cons]

end SortedMap

namespace Console

open AutoReply.Chat AutoReply.Text

/-- Names as guests are told apart by them; the bot is no guest. -/
def guests (bot : Bot) (names : List String) : List String :=
  (names.filter fun name => !equalIgnoringAsciiCase name bot.name).map lower

def guestId (place : Nat) : UserId :=
  ⟨firstGuest + UInt64.ofNat place⟩

def place (seen : List String) (guest : String) : Nat :=
  seen.eraseDups.idxOf guest

def numberOf (bot : Bot) (seen : List String) (name : String) : UserId :=
  if equalIgnoringAsciiCase name bot.name then bot.id else guestId (place seen (lower name))

def mentionsOf (bot : Bot) (seen names : List String) : List Mention :=
  names.map fun name => { id := numberOf bot seen name, name }

section

variable {bot : Bot} {seen : List String} {name guest : String}

theorem guests_append (bot : Bot) (names more : List String) :
    guests bot (names ++ more) = guests bot names ++ guests bot more := by
  simp [guests]

theorem guests_of_bot (same : equalIgnoringAsciiCase name bot.name = true) :
    guests bot [name] = [] := by
  simp [guests, same]

theorem guests_of_guest (other : equalIgnoringAsciiCase name bot.name = false) :
    guests bot [name] = [lower name] := by
  simp [guests, other]

theorem eraseDups_seen (old : guest ∈ seen) : (seen ++ [guest]).eraseDups = seen.eraseDups := by
  simp [List.eraseDups_append, List.removeAll, old]

theorem eraseDups_new (new : guest ∉ seen) :
    (seen ++ [guest]).eraseDups = seen.eraseDups ++ [guest] := by
  simp [List.eraseDups_append, List.removeAll, new, List.eraseDups_cons]

theorem place_append (old : guest ∈ seen) (more : List String) :
    place (seen ++ more) guest = place seen guest := by
  unfold place
  rw [List.eraseDups_append, List.idxOf_append, if_pos (List.mem_eraseDups.mpr old)]

theorem place_new (new : guest ∉ seen) : place (seen ++ [guest]) guest = seen.eraseDups.length := by
  have absent : guest ∉ seen.eraseDups := fun member => new (List.mem_eraseDups.mp member)
  simp [place, eraseDups_new new, List.idxOf_append, absent]

theorem numberOf_append (known : guests bot [name] ⊆ seen) (more : List String) :
    numberOf bot (seen ++ more) name = numberOf bot seen name := by
  unfold numberOf
  cases same : equalIgnoringAsciiCase name bot.name with
  | true => rfl
  | false =>
      have old : lower name ∈ seen := known (by simp [guests_of_guest same])
      simp [place_append old more]

end

/-- The table holds these guests, each with the number of the place. -/
structure Knows (known : KnownUsers) (seen : List String) : Prop where
  size : known.size = seen.eraseDups.length
  lookup : ∀ guest,
    known.lookup guest = if guest ∈ seen then some (guestId (place seen guest)) else none

theorem knows_empty : Knows .empty [] :=
  ⟨rfl, fun _ => rfl⟩

namespace Knows

variable {known : KnownUsers} {seen : List String}

theorem seen_again (knows : Knows known seen) {guest : String} (old : guest ∈ seen) :
    Knows known (seen ++ [guest]) := by
  refine ⟨by rw [knows.size, eraseDups_seen old], fun other => ?_⟩
  rw [knows.lookup other]
  by_cases member : other ∈ seen
  · simp [member, place_append member]
  · have different : other ≠ guest := fun same => member (same ▸ old)
    simp [member, different]

theorem insert (knows : Knows known seen) {guest : String} (new : guest ∉ seen) :
    Knows (known.insert guest (guestId known.size)) (seen ++ [guest]) := by
  have absent : known.lookup guest = none := by rw [knows.lookup, if_neg new]
  constructor
  case size =>
    rw [eraseDups_new new, List.length_append, ← knows.size]
    exact SortedMap.length_insertEntry_of_absent _ absent
  case lookup =>
    intro other
    rw [SortedMap.lookup_insert, knows.lookup other, knows.size]
    by_cases same : other = guest
    · simp [same, place_new new]
    · by_cases member : other ∈ seen
      · simp [same, member, place_append member]
      · simp [same, member]

theorem identify (knows : Knows known seen) (bot : Bot) (name : String) :
    (identify bot known name).1 = numberOf bot (seen ++ guests bot [name]) name ∧
      Knows (Console.identify bot known name).2 (seen ++ guests bot [name]) := by
  unfold Console.identify numberOf
  cases isBot : equalIgnoringAsciiCase name bot.name with
  | true => simpa [guests_of_bot isBot] using knows
  | false =>
      simp only [guests_of_guest isBot, Bool.false_eq_true, if_false, knows.lookup]
      by_cases old : lower name ∈ seen
      · simp only [old, if_true, place_append old, true_and]
        exact knows.seen_again old
      · simp only [old, if_false, place_new old, ← knows.size]
        exact ⟨rfl, knows.insert old⟩

theorem identifyAll (knows : Knows known seen) (bot : Bot) (names : List String) :
    (identifyAll bot known names).1 = mentionsOf bot (seen ++ guests bot names) names ∧
      Knows (Console.identifyAll bot known names).2 (seen ++ guests bot names) := by
  induction names generalizing known seen with
  | nil => simpa [Console.identifyAll, mentionsOf, guests] using knows
  | cons name names ih =>
      obtain ⟨number, knowsFirst⟩ := knows.identify bot name
      obtain ⟨mentions, knowsAll⟩ := ih knowsFirst
      have split : seen ++ guests bot (name :: names) =
          seen ++ guests bot [name] ++ guests bot names := by
        rw [← List.singleton_append, guests_append, List.append_assoc]
      have kept : numberOf bot (seen ++ guests bot (name :: names)) name =
          numberOf bot (seen ++ guests bot [name]) name := by
        rw [split]
        exact numberOf_append (List.subset_append_right _ _) _
      rw [mentionsOf, List.map_cons, kept, ← number, split]
      exact ⟨congrArg (List.cons _) mentions, knowsAll⟩

end Knows

end Console

end AutoReply
