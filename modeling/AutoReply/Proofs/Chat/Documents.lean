import AutoReply.Chat.EventJson
import AutoReply.Chat.MessageJson
import AutoReply.Proofs.Json.Lists

/-!
Messages and emojis are read back from their JSON form, on one line or indented, also when members
that have defaults are left out of it.
-/

namespace AutoReply

open AutoReply.Json AutoReply.Number AutoReply.Text AutoReply.Time

namespace Json

mutual

/-- The value with the members of some names left out, at any depth. -/
def leaveOut (left : String → Bool) : Json → Json
  | list items => list (leaveOutItems left items)
  | object members => object (leaveOutMembers left members)
  | null => null
  | bool value => bool value
  | integer value => integer value
  | real value => real value
  | text value => text value

def leaveOutItems (left : String → Bool) : List Json → List Json
  | [] => []
  | item :: items => leaveOut left item :: leaveOutItems left items

def leaveOutMembers (left : String → Bool) : List (String × Json) → List (String × Json)
  | [] => []
  | (name, value) :: members =>
      if left name then leaveOutMembers left members
      else (name, leaveOut left value) :: leaveOutMembers left members

end

mutual

theorem leaveOut_nothing : ∀ json : Json, json.leaveOut (fun _ => false) = json
  | list items => by rw [leaveOut, leaveOutItems_nothing items]
  | object members => by rw [leaveOut, leaveOutMembers_nothing members]
  | null => rfl
  | bool _ => rfl
  | integer _ => rfl
  | real _ => rfl
  | text _ => rfl

theorem leaveOutItems_nothing : ∀ items : List Json, leaveOutItems (fun _ => false) items = items
  | [] => rfl
  | item :: items => by rw [leaveOutItems, leaveOut_nothing item, leaveOutItems_nothing items]

theorem leaveOutMembers_nothing : ∀ members : List (String × Json),
    leaveOutMembers (fun _ => false) members = members
  | [] => rfl
  | (name, value) :: members => by
      rw [leaveOutMembers, leaveOut_nothing value, leaveOutMembers_nothing members]
      rfl

end

variable {α : Type}

theorem leaveOutItems_map (left : String → Bool) (write : α → Json) (values : List α) :
    leaveOutItems left (values.map write) =
      values.map fun value => (write value).leaveOut left := by
  induction values with
  | nil => rfl
  | cons value values ih => rw [List.map_cons, leaveOutItems, ih, List.map_cons]

theorem leaveOut_option (left : String → Bool) (write : α → Json) (value : Option α) :
    (Json.option write value).leaveOut left =
      Json.option (fun inside => (write inside).leaveOut left) value := by
  cases value <;> rfl

def textIn (layout : Layout) (json : Json) : String :=
  String.ofList (chars layout 0 json)

section Records

variable {δ : Type} {layout : Layout} {depth : Nat} {fields : List (Field δ)} {left : String → Bool}
  {draft filled final : δ} {field : Field δ} {name : String} {value : Json}
  {members : List (String × Json)}

theorem Fills.unless (found : fields.find? (fun field => field.name == name) = some field)
    (unread : field.isRead draft = false)
    (reads : left name = false →
      ReadsValue (field.read draft) (chars layout depth (value.leaveOut left)) filled)
    (skipped : left name = true → draft = filled)
    (others : Fills layout depth fields filled (leaveOutMembers left members) final) :
    Fills layout depth fields draft (leaveOutMembers left ((name, value) :: members)) final := by
  rw [leaveOutMembers]
  cases omitted : left name with
  | true =>
      rw [if_pos rfl, skipped omitted]
      exact others
  | false =>
      rw [if_neg (by simp)]
      exact .cons found unread (reads omitted) others

theorem Fills.needed (kept : left name = false)
    (found : fields.find? (fun field => field.name == name) = some field)
    (unread : field.isRead draft = false)
    (reads : ReadsValue (field.read draft) (chars layout depth (value.leaveOut left)) filled)
    (others : Fills layout depth fields filled (leaveOutMembers left members) final) :
    Fills layout depth fields draft (leaveOutMembers left ((name, value) :: members)) final :=
  .unless found unread (fun _ => reads) (fun omitted => by simp [kept] at omitted) others

end Records

end Json

namespace Chat

variable {layout : Json.Layout} {depth : Nat} {left : String → Bool}

def defaulted : List String := ["nick", "mentions", "reply", "fields", "animated"]

def OnlyDefaulted (left : String → Bool) : Prop :=
  ∀ name, left name = true → name ∈ defaulted

theorem OnlyDefaulted.kept (only : OnlyDefaulted left) {name : String} (needed : name ∉ defaulted) :
    left name = false := by
  cases omitted : left name with
  | true => exact absurd (only name omitted) needed
  | false => rfl

/-! Authors, mentions and replies. -/

def Author.without (left : String → Bool) (author : Author) : Author :=
  { author with nick := if left "nick" then none else author.nick }

def Author.draftOf (left : String → Bool) (author : Author) : Draft where
  id := some author.id
  name := some author.name
  nick := if left "nick" then none else some author.nick

theorem readsValue_author (spaced : Spaced layout)
    (only : OnlyDefaulted left) (author : Author) :
    ReadsValue Author.record.reader (Json.chars layout depth (author.toJson.leaveOut left))
      (author.without left) := by
  have nick : Fills layout (depth + 1) Author.record.fields
      { author.draftOf left with nick := none }
      (Json.leaveOutMembers left [("nick", .option .text author.nick)]) (author.draftOf left) := by
    refine .unless rfl rfl (fun kept => ?_) (fun omitted => ?_) (.nil _)
    · rw [Author.draftOf, kept, Json.leaveOut_option]
      exact (readsValue_option fun nick _ => ⟨readsValue_text nick, opens_text nick⟩).map _
    · rw [Author.draftOf, omitted]
      rfl
  have finished : Author.record.finish (author.draftOf left) = .ok (author.without left) := by
    unfold Author.draftOf Author.without
    cases left "nick" <;> rfl
  refine readsValue_record spaced Author.record ?_ finished
  refine .needed (only.kept (by decide)) rfl rfl
    (((readsValue_word64 author.id.number).map _).map _) ?_
  exact .needed (only.kept (by decide)) rfl rfl ((readsValue_text author.name).map _) nick

theorem readsValue_mention (spaced : Spaced layout)
    (only : OnlyDefaulted left) (mention : Mention) :
    ReadsValue Mention.record.reader (Json.chars layout depth (mention.toJson.leaveOut left))
      mention := by
  have finished : Mention.record.finish ⟨some mention.id, some mention.name⟩ = .ok mention := rfl
  refine readsValue_record spaced Mention.record ?_ finished
  refine .needed (only.kept (by decide)) rfl rfl
    (((readsValue_word64 mention.id.number).map _).map _) ?_
  exact .needed (only.kept (by decide)) rfl rfl ((readsValue_text mention.name).map _) (.nil _)

theorem readsItems_mentions (spaced : Spaced layout)
    (only : OnlyDefaulted left) :
    ReadsItems layout depth Mention.record.reader fun mention => mention.toJson.leaveOut left :=
  ⟨readsValue_mention spaced only, fun _ => opens_object _⟩

def Reply.members : Reply → List (String × Json)
  | toMessageOf author =>
      [("kind", .text "resolved"), ("author_id", .number author.number.toNat)]
  | toDeleted => [("kind", .text "deleted")]

theorem Reply.leaveOut_toJson (only : OnlyDefaulted left)
    (reply : Reply) : reply.toJson.leaveOut left = .object reply.members := by
  have kind : left "kind" = false := only.kept (by decide)
  have author : left "author_id" = false := only.kept (by decide)
  cases reply <;>
    simp [toJson, members, Json.leaveOut, Json.leaveOutMembers, kind, author, Json.number]

theorem Reply.isScalar_members (reply : Reply) : ∀ member ∈ reply.members, IsScalar member.2 := by
  cases reply with
  | toMessageOf author =>
      simp only [members, List.forall_mem_cons]
      exact ⟨.text _, .number author.number, by simp⟩
  | toDeleted =>
      simp only [members, List.forall_mem_cons]
      exact ⟨.text _, by simp⟩

theorem Reply.authorOf_integer (author : UserId) :
    authorOf (.integer author.number.toNat) = .ok (.toMessageOf author) := by
  have small : author.number.toNat < wordCount := author.number.toNat_lt
  have checked : Reader.checkedNatural wordCount "u64" (.integer author.number.toNat) =
      .ok author.number.toNat := by simp [Reader.checkedNatural, small]
  unfold authorOf
  simp only [checked]
  rw [Except.map, UInt64.ofNat_toNat]

theorem Reply.ofJson_members (reply : Reply) :
    Reply.ofJson (.object reply.members) = .ok reply := by
  cases reply with
  | toMessageOf author =>
      have resolved : ofMembers "resolved" [("author_id", .number author.number.toNat)] =
          authorOf (.number author.number.toNat) := rfl
      have read : ofJson (.object (members (toMessageOf author))) =
          ofMembers "resolved" [("author_id", .number author.number.toNat)] := rfl
      rw [read, resolved, Json.number, authorOf_integer]
  | toDeleted => rfl

theorem readsValue_reply (spaced : Spaced layout)
    (only : OnlyDefaulted left) (reply : Reply) :
    ReadsValue Reply.reader (Json.chars layout depth (reply.toJson.leaveOut left)) reply := by
  rw [reply.leaveOut_toJson only]
  refine ReadsValue.placed fun blanks rest blank ends => ?_
  refine (readsValue_scalarMembers reply.isScalar_members spaced (by decide) blanks rest blank
    ends).last ?_
  rw [reply.ofJson_members]
  rfl

/-! Messages that come in. -/

theorem readsValue_time {time : Timestamp} (readBack : Timestamp.ofText? time.toText = some time) :
    ReadsValue readTime (Json.textChars time.toText) time := by
  refine ReadsValue.placed fun blanks rest blank ends => ?_
  refine (readsValue_text time.toText blanks rest blank ends).last ?_
  rw [readBack]

namespace MessageEvent

def without (left : String → Bool) (event : MessageEvent) : MessageEvent :=
  { event with
    author := event.author.without left
    mentions := if left "mentions" then [] else event.mentions
    reply := if left "reply" then none else event.reply }

def draftOf (left : String → Bool) (event : MessageEvent) : Draft where
  id := some event.id
  channel := some event.channel
  author := some (event.author.without left)
  text := some event.text
  mentions := if left "mentions" then none else some event.mentions
  reply := if left "reply" then none else some event.reply
  time := some event.time

theorem fills_leaveOut (spaced : Spaced layout)
    (only : OnlyDefaulted left) (event : MessageEvent)
    (readBack : Timestamp.ofText? event.time.toText = some event.time) :
    Fills layout (depth + 1) record.fields {}
      (Json.leaveOutMembers left
        [("message_id", .number event.id.number.toNat),
          ("channel_id", .number event.channel.number.toNat), ("author", event.author.toJson),
          ("text", .text event.text), ("mentions", .list (event.mentions.map Mention.toJson)),
          ("reply", .option Reply.toJson event.reply), ("timestamp", .text event.time.toText)])
      (event.draftOf left) := by
  have time : Fills layout (depth + 1) record.fields { event.draftOf left with time := none }
      (Json.leaveOutMembers left [("timestamp", .text event.time.toText)]) (event.draftOf left) :=
    .needed (only.kept (by decide)) rfl rfl
      ((readsValue_time readBack).map _) (.nil _)
  have reply : Fills layout (depth + 1) record.fields
      { event.draftOf left with reply := none, time := none }
      (Json.leaveOutMembers left [("reply", .option Reply.toJson event.reply),
        ("timestamp", .text event.time.toText)]) (event.draftOf left) := by
    refine .unless rfl rfl (fun kept => ?_) (fun omitted => ?_) time
    · rw [draftOf, kept, Json.leaveOut_option]
      refine (readsValue_option fun reply _ => ⟨readsValue_reply spaced only reply, ?_⟩).map _
      rw [reply.leaveOut_toJson only]
      exact opens_object _
    · rw [draftOf, omitted]
      rfl
  have mentions : Fills layout (depth + 1) record.fields
      { event.draftOf left with mentions := none, reply := none, time := none }
      (Json.leaveOutMembers left [("mentions", .list (event.mentions.map Mention.toJson)),
        ("reply", .option Reply.toJson event.reply), ("timestamp", .text event.time.toText)])
      (event.draftOf left) := by
    refine .unless rfl rfl (fun kept => ?_) (fun omitted => ?_) reply
    · rw [draftOf, kept, Json.leaveOut, Json.leaveOutItems_map]
      exact (readsValue_list spaced (readsItems_mentions spaced only) event.mentions).map _
    · rw [draftOf, omitted]
      rfl
  refine .needed (only.kept (by decide)) rfl rfl
    (((readsValue_word64 event.id.number).map _).map _) ?_
  refine .needed (only.kept (by decide)) rfl rfl
    (((readsValue_word64 event.channel.number).map _).map _) ?_
  refine .needed (only.kept (by decide)) rfl rfl
    ((readsValue_author spaced only event.author).map _) ?_
  exact .needed (only.kept (by decide)) rfl rfl ((readsValue_text event.text).map _)
    mentions

theorem finish_draftOf (left : String → Bool) (event : MessageEvent) :
    record.finish (event.draftOf left) = .ok (event.without left) := by
  unfold draftOf without
  cases left "mentions" <;> cases left "reply" <;> rfl

theorem ofJsonText_leaveOut (spaced : Spaced layout)
    (only : OnlyDefaulted left) (event : MessageEvent)
    (readBack : Timestamp.ofText? event.time.toText = some event.time) :
    ofJsonText (symbols ((event.toJson.leaveOut left).textIn layout)) =
      .ok (event.without left) := by
  have read : ReadsValue record.reader (Json.chars layout 0 (event.toJson.leaveOut left))
      (event.without left) :=
    readsValue_record spaced record (event.fills_leaveOut spaced only readBack)
      (event.finish_draftOf left)
  rw [ofJsonText, symbols, Json.textIn, String.toList_ofList]
  exact whole_of_readsValue read

end MessageEvent

/-! Messages that go out. -/

theorem readsValue_field (spaced : Spaced layout) (only : OnlyDefaulted left) (field : RichField) :
    ReadsValue RichField.record.reader (Json.chars layout depth (field.toJson.leaveOut left))
      field := by
  have finished : RichField.record.finish ⟨some field.name, some field.value, some field.inline⟩ =
      .ok field := rfl
  refine readsValue_record spaced RichField.record ?_ finished
  refine .needed (only.kept (by decide)) rfl rfl ((readsValue_text field.name).map _) ?_
  refine .needed (only.kept (by decide)) rfl rfl ((readsValue_text field.value).map _) ?_
  exact .needed (only.kept (by decide)) rfl rfl ((readsValue_bool field.inline).map _) (.nil _)

theorem readsItems_fields (spaced : Spaced layout) (only : OnlyDefaulted left) :
    ReadsItems layout depth RichField.record.reader fun field => field.toJson.leaveOut left :=
  ⟨readsValue_field spaced only, fun _ => opens_object _⟩

namespace RichMessage

def without (left : String → Bool) (message : RichMessage) : RichMessage :=
  { message with fields := if left "fields" then [] else message.fields }

def draftOf (left : String → Bool) (message : RichMessage) : Draft where
  title := some message.title
  description := some message.description
  color := some message.color
  fields := if left "fields" then none else some message.fields

theorem ofJsonText_leaveOut (spaced : Spaced layout) (only : OnlyDefaulted left)
    (message : RichMessage) :
    ofJsonText (symbols ((message.toJson.leaveOut left).textIn layout)) =
      .ok (message.without left) := by
  have fields : Fills layout 1 record.fields { message.draftOf left with fields := none }
      (Json.leaveOutMembers left [("fields", .list (message.fields.map RichField.toJson))])
      (message.draftOf left) := by
    refine .unless rfl rfl (fun kept => ?_) (fun omitted => ?_) (.nil _)
    · rw [draftOf, kept, Json.leaveOut, Json.leaveOutItems_map]
      exact (readsValue_list spaced (readsItems_fields spaced only) message.fields).map _
    · rw [draftOf, omitted]
      rfl
  have read : ReadsValue record.reader (Json.chars layout 0 (message.toJson.leaveOut left))
      (message.without left) := by
    have finished : record.finish (message.draftOf left) = .ok (message.without left) := by
      unfold draftOf without
      cases left "fields" <;> rfl
    refine readsValue_record spaced record ?_ finished
    refine .needed (only.kept (by decide)) rfl rfl ((readsValue_text message.title).map _) ?_
    refine .needed (only.kept (by decide)) rfl rfl ((readsValue_text message.description).map _) ?_
    exact .needed (only.kept (by decide)) rfl rfl ((readsValue_word32 message.color).map _) fields
  rw [ofJsonText, symbols, Json.textIn, String.toList_ofList]
  exact whole_of_readsValue read

end RichMessage

namespace Emoji

def without (left : String → Bool) (emoji : Emoji) : Emoji :=
  { emoji with animated := if left "animated" then false else emoji.animated }

def draftOf (left : String → Bool) (emoji : Emoji) : Draft where
  id := some emoji.id
  name := some emoji.name
  animated := if left "animated" then none else some emoji.animated

theorem ofJsonText_leaveOut (spaced : Spaced layout) (only : OnlyDefaulted left) (emoji : Emoji) :
    ofJsonText (symbols ((emoji.toJson.leaveOut left).textIn layout)) =
      .ok (emoji.without left) := by
  have animated : Fills layout 1 record.fields { emoji.draftOf left with animated := none }
      (Json.leaveOutMembers left [("animated", .bool emoji.animated)]) (emoji.draftOf left) := by
    refine .unless rfl rfl (fun kept => ?_) (fun omitted => ?_) (.nil _)
    · rw [draftOf, kept]
      exact (readsValue_bool emoji.animated).map _
    · rw [draftOf, omitted]
      rfl
  have read : ReadsValue record.reader (Json.chars layout 0 (emoji.toJson.leaveOut left))
      (emoji.without left) := by
    have finished : record.finish (emoji.draftOf left) = .ok (emoji.without left) := by
      unfold draftOf without
      cases left "animated" <;> rfl
    refine readsValue_record spaced record ?_ finished
    refine .needed (only.kept (by decide)) rfl rfl
      (((readsValue_word64 emoji.id.number).map _).map _) ?_
    exact .needed (only.kept (by decide)) rfl rfl ((readsValue_text emoji.name).map _) animated
  rw [ofJsonText, symbols, Json.textIn, String.toList_ofList]
  exact whole_of_readsValue read

end Emoji

/-- Incoming messages, outgoing messages and emojis are what is read from their JSON form, in every
layout; a member with a default that is left out is read as the default. Of times this takes for
granted that their own text is read back. -/
theorem documents_read_back (layout : Json.Layout) (spaced : Spaced layout) (left : String → Bool)
    (only : OnlyDefaulted left) :
    (∀ event : MessageEvent, Timestamp.ofText? event.time.toText = some event.time →
      MessageEvent.ofJsonText (symbols (event.toJson.textIn layout)) = .ok event ∧
        MessageEvent.ofJsonText (symbols ((event.toJson.leaveOut left).textIn layout)) =
          .ok { event with
            author := { event.author with nick := if left "nick" then none else event.author.nick }
            mentions := if left "mentions" then [] else event.mentions
            reply := if left "reply" then none else event.reply }) ∧
    (∀ message : RichMessage,
      RichMessage.ofJsonText (symbols (message.toJson.textIn layout)) = .ok message ∧
        RichMessage.ofJsonText (symbols ((message.toJson.leaveOut left).textIn layout)) =
          .ok { message with fields := if left "fields" then [] else message.fields }) ∧
    ∀ emoji : Emoji,
      Emoji.ofJsonText (symbols (emoji.toJson.textIn layout)) = .ok emoji ∧
        Emoji.ofJsonText (symbols ((emoji.toJson.leaveOut left).textIn layout)) =
          .ok { emoji with animated := if left "animated" then false else emoji.animated } := by
  have nothing : OnlyDefaulted fun _ => false := by
    intro name omitted
    contradiction
  refine ⟨fun event readBack => ⟨?_, ?_⟩, fun message => ⟨?_, ?_⟩, fun emoji => ⟨?_, ?_⟩⟩
  · have whole := event.ofJsonText_leaveOut spaced nothing readBack
    rwa [Json.leaveOut_nothing] at whole
  · exact event.ofJsonText_leaveOut spaced only readBack
  · have whole := message.ofJsonText_leaveOut spaced nothing
    rwa [Json.leaveOut_nothing] at whole
  · exact message.ofJsonText_leaveOut spaced only
  · have whole := emoji.ofJsonText_leaveOut spaced nothing
    rwa [Json.leaveOut_nothing] at whole
  · exact emoji.ofJsonText_leaveOut spaced only

def oddMessage : MessageEvent where
  id := ⟨18446744073709551615⟩
  channel := ⟨9007199254740993⟩
  author := { id := ⟨0⟩, name := "\"\\", nick := some "\n\x01" }
  text := "😀 null ]"
  mentions := [⟨⟨42⟩, "tina"⟩, ⟨⟨18446744073709551615⟩, ""⟩]
  reply := some .toDeleted
  time := ⟨1700000039, 1500000000⟩

theorem oddMessage_read_back :
    Spaced .oneLine ∧ OnlyDefaulted (fun name => name == "nick" || name == "mentions") ∧
      Timestamp.ofText? oddMessage.time.toText = some oddMessage.time ∧
      MessageEvent.ofJsonText (symbols oddMessage.toJson.compact) = .ok oddMessage ∧
      MessageEvent.ofJsonText (symbols (oddMessage.toJson.leaveOut
          fun name => name == "nick" || name == "mentions").compact) =
        .ok { oddMessage with
          author := { oddMessage.author with nick := none }
          mentions := [] } := by
  have only : OnlyDefaulted fun name => name == "nick" || name == "mentions" := by
    intro name omitted
    simp only [Bool.or_eq_true, beq_iff_eq] at omitted
    rcases omitted with rfl | rfl <;> decide
  have readBack : Timestamp.ofText? oddMessage.time.toText = some oddMessage.time := by
    decide +kernel
  obtain ⟨whole, without⟩ :=
    (documents_read_back .oneLine spaced_oneLine _ only).1 oddMessage readBack
  exact ⟨spaced_oneLine, only, readBack, whole, without⟩

end Chat

end AutoReply
