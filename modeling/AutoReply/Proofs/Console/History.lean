import AutoReply.Console.History
import AutoReply.Proofs.SortedMap

/-!
Whom the history of a session names as the author before a message. It is the author of the last
message that was recorded in the channel before, whatever else has been recorded.
-/

namespace AutoReply.Console

open AutoReply.Chat

structure Posting where
  channel : ChannelId
  author : UserId
  deriving DecidableEq

def idAt (count : Nat) : MessageId :=
  ⟨1 + UInt64.ofNat count⟩

theorem idAt_ne {count other : Nat} (less : count < other) (fits : other < UInt64.size) :
    idAt count ≠ idAt other := by
  intro same
  have words := (UInt64.add_right_inj 1).mp (MessageId.mk.inj same)
  have numbers := congrArg UInt64.toNat words
  rw [UInt64.toNat_ofNat_of_lt' (Nat.lt_trans less fits), UInt64.toNat_ofNat_of_lt' fits] at numbers
  omega

def among (channel : ChannelId) (postings : List Posting) : List Posting :=
  postings.filter fun posting => posting.channel = channel

def numbered (channel : ChannelId) (postings : List Posting) : List (MessageId × UserId) :=
  (postings.zipIdx.filter fun entry => entry.1.channel = channel).map fun entry =>
    (idAt entry.2, entry.1.author)

section

variable {channel : ChannelId} {postings before after : List Posting} {posting : Posting}

theorem numbered_concat (channel : ChannelId) (postings : List Posting) (posting : Posting) :
    numbered channel (postings ++ [posting]) = numbered channel postings ++
      if posting.channel = channel then [(idAt postings.length, posting.author)] else [] := by
  by_cases here : posting.channel = channel
  · simp [numbered, List.zipIdx_append, here]
  · simp [numbered, List.zipIdx_append, here]

theorem numbered_split (here : posting.channel = channel) (before after : List Posting) :
    ∃ later, numbered channel (before ++ posting :: after) =
      numbered channel before ++ (idAt before.length, posting.author) :: later := by
  simp [numbered, List.zipIdx_append, List.zipIdx_cons, here]

theorem ne_of_mem_numbered (fits : postings.length < UInt64.size) {message : MessageId × UserId}
    (member : message ∈ numbered channel postings) : message.1 ≠ idAt postings.length := by
  obtain ⟨entry, listed, rfl⟩ := List.mem_map.mp member
  have earlier := (List.mem_zipIdx (List.mem_filter.mp listed).1).2.1
  exact idAt_ne (by simpa using earlier) fits

theorem authors_numbered (channel : ChannelId) (postings : List Posting) :
    (numbered channel postings).map Prod.snd = (among channel postings).map Posting.author := by
  have same : among channel postings =
      (postings.zipIdx.filter fun entry => entry.1.channel = channel).map Prod.fst := calc
    _ = among channel (postings.zipIdx.map Prod.fst) := by rw [List.zipIdx_map_fst]
    _ = _ := List.filter_map
  rw [same, numbered, List.map_map, List.map_map]
  rfl

end

namespace History

def recordAll (history : History) : List Posting → List MessageId × History
  | [] => ([], history)
  | posting :: postings =>
      let (id, next) := history.record posting.channel posting.author
      let (ids, last) := next.recordAll postings
      (id :: ids, last)

structure Holds (history : History) (postings : List Posting) : Prop where
  next : ⟨history.next⟩ = idAt postings.length
  messages : ∀ channel, history.messages channel = numbered channel postings

theorem holds_empty : Holds {} [] :=
  ⟨rfl, fun _ => rfl⟩

namespace Holds

variable {history : History} {postings : List Posting}

theorem record (holds : Holds history postings) (posting : Posting) :
    (history.record posting.channel posting.author).1 = idAt postings.length ∧
      Holds (history.record posting.channel posting.author).2 (postings ++ [posting]) := by
  refine ⟨holds.next, ?_, fun channel => ?_⟩
  · have number := MessageId.mk.inj holds.next
    rw [List.length_append, List.length_singleton, idAt, UInt64.ofNat_add, ← UInt64.add_assoc,
      ← number]
    rfl
  · rw [numbered_concat, ← holds.messages channel, ← holds.next]
    unfold History.messages History.record
    rw [SortedMap.lookup_insert]
    by_cases here : posting.channel = channel
    · simp [here, History.messages]
    · simp [here, Ne.symm here]

theorem recordAll (holds : Holds history postings) (more : List Posting) :
    (history.recordAll more).1 = (List.range' postings.length more.length).map idAt ∧
      Holds (history.recordAll more).2 (postings ++ more) := by
  induction more generalizing history postings with
  | nil => simpa [History.recordAll] using holds
  | cons posting more ih =>
      obtain ⟨id, holdsFirst⟩ := holds.record posting
      obtain ⟨ids, holdsAll⟩ := ih holdsFirst
      rw [List.append_assoc, List.singleton_append] at holdsAll
      rw [List.length_append, List.length_singleton] at ids
      refine ⟨?_, holdsAll⟩
      rw [List.length_cons, List.range'_succ, List.map_cons, ← ids, ← id]
      rfl

theorem precedingAuthor {before after : List Posting} {posting : Posting}
    (holds : Holds history (before ++ posting :: after)) (fits : before.length < UInt64.size) :
    history.precedingAuthor posting.channel (idAt before.length) =
      (among posting.channel before).getLast?.map Posting.author := by
  obtain ⟨later, split⟩ := numbered_split rfl before after
  have passed : ∀ message ∈ numbered posting.channel before,
      (message.1 != idAt before.length) = true :=
    fun message member => bne_iff_ne.mpr (ne_of_mem_numbered fits member)
  rw [History.precedingAuthor, holds.messages, split, List.takeWhile_append_of_pos passed,
    List.takeWhile_cons_of_neg (by simp), List.append_nil, ← List.getLast?_map,
    ← List.getLast?_map, authors_numbered]

end Holds

/-- The author of the message before in the same channel is known, if there is one. -/
structure Recalls (history : History) (before : List Posting) (posting : Posting)
    (id : MessageId) : Prop where
  author : ∀ author, history.precedingAuthor posting.channel id = some author ↔
    ∃ older between, before = older ++ ⟨posting.channel, author⟩ :: between ∧
      ∀ other ∈ between, other.channel ≠ posting.channel
  first : history.precedingAuthor posting.channel id = none ↔
    ∀ other ∈ before, other.channel ≠ posting.channel
  alone : ∀ others later, (others ++ posting :: later).length ≤ UInt64.size →
    among posting.channel others = among posting.channel before →
      let (ids, last) := recordAll {} (others ++ posting :: later)
      ∀ other, ids[others.length]? = some other →
        last.precedingAuthor posting.channel other = history.precedingAuthor posting.channel id

section

variable {channel : ChannelId} {postings before after : List Posting} {posting : Posting}

theorem getLast?_among {author : UserId} :
    (among channel postings).getLast?.map Posting.author = some author ↔
      ∃ older between, postings = older ++ ⟨channel, author⟩ :: between ∧
        ∀ other ∈ between, other.channel ≠ channel := by
  constructor
  · intro found
    obtain ⟨posting, last, rfl⟩ := Option.map_eq_some_iff.mp found
    obtain ⟨earlier, ends⟩ := List.getLast?_eq_some_iff.mp last
    obtain ⟨older, rest, rfl, _, single⟩ := List.filter_eq_append_iff.mp ends
    obtain ⟨skipped, between, rfl, _, here, none⟩ := List.filter_eq_cons_iff.mp single
    refine ⟨older ++ skipped, between, ?_, by simpa using none⟩
    rw [← of_decide_eq_true here, List.append_assoc]
  · rintro ⟨older, between, rfl, others⟩
    have none : among channel between = [] := by simpa [among] using others
    unfold among at none ⊢
    simp [none]

theorem length_recordAll (postings : List Posting) :
    (recordAll {} postings).1.length = postings.length := by
  rw [(holds_empty.recordAll postings).1, List.length_map, List.length_range']

theorem precedingAuthor_recordAll {id : MessageId}
    (fits : (before ++ posting :: after).length ≤ UInt64.size)
    (returned : (recordAll {} (before ++ posting :: after)).1[before.length]? = some id) :
    (recordAll {} (before ++ posting :: after)).2.precedingAuthor posting.channel id =
      (among posting.channel before).getLast?.map Posting.author := by
  obtain ⟨ids, holds⟩ := holds_empty.recordAll (before ++ posting :: after)
  have number : id = idAt before.length := by
    simpa [ids] using returned.symm
  have early : before.length < UInt64.size := by
    rw [List.length_append, List.length_cons] at fits
    omega
  rw [number]
  exact holds.precedingAuthor early

end

/-- However channels and authors alternate, the author named before a message is that of the one
recorded just before it in its channel. No history in memory has more messages than there are
numbers. -/
theorem preceding_author_exact {postings : List Posting} (fits : postings.length ≤ UInt64.size) :
    let (ids, history) := recordAll {} postings
    ids.length = postings.length ∧
      ∀ before posting after id, postings = before ++ posting :: after →
        ids[before.length]? = some id → history.Recalls before posting id := by
  refine ⟨length_recordAll postings, ?_⟩
  rintro before posting after id rfl returned
  have found := precedingAuthor_recordAll fits returned
  constructor
  case author =>
    intro author
    rw [found, getLast?_among]
  case first =>
    rw [found, Option.map_eq_none_iff, List.getLast?_eq_none_iff]
    simp [among]
  case alone =>
    intro others later fitsOthers same other returnedOther
    rw [found, precedingAuthor_recordAll fitsOthers returnedOther, same]

def busyEvening : List Posting :=
  [⟨⟨1⟩, ⟨7⟩⟩, ⟨⟨2⟩, ⟨8⟩⟩, ⟨⟨1⟩, ⟨9⟩⟩, ⟨⟨2⟩, ⟨7⟩⟩, ⟨⟨1⟩, ⟨7⟩⟩]

theorem busyEvening_recalled :
    let (ids, history) := recordAll {} busyEvening
    busyEvening.length ≤ UInt64.size ∧ ids = [⟨1⟩, ⟨2⟩, ⟨3⟩, ⟨4⟩, ⟨5⟩] ∧
      history.precedingAuthor ⟨1⟩ ⟨3⟩ = some ⟨7⟩ ∧ history.precedingAuthor ⟨1⟩ ⟨1⟩ = none := by
  have fits : busyEvening.length ≤ UInt64.size := by decide
  obtain ⟨_, recalls⟩ := preceding_author_exact fits
  have third := recalls [⟨⟨1⟩, ⟨7⟩⟩, ⟨⟨2⟩, ⟨8⟩⟩] ⟨⟨1⟩, ⟨9⟩⟩ [⟨⟨2⟩, ⟨7⟩⟩, ⟨⟨1⟩, ⟨7⟩⟩] ⟨3⟩ rfl rfl
  have first := recalls [] ⟨⟨1⟩, ⟨7⟩⟩ _ ⟨1⟩ rfl rfl
  refine ⟨fits, rfl, (third.author ⟨7⟩).mpr ⟨[], [⟨⟨2⟩, ⟨8⟩⟩], rfl, by decide⟩, ?_⟩
  exact first.first.mpr (by simp)

end History

end AutoReply.Console
