import AutoReply.Json.Record
import AutoReply.SavedState

/-!
The JSON form of saved states. A map that is left out is empty, and of members with the same name
the last one counts.
-/

namespace AutoReply.SavedState

open AutoReply.Chat AutoReply.Json AutoReply.Text

def toJson (saved : SavedState) : Json :=
  .object
    [("responses_states",
        .object (saved.states.entries.map fun (name, state) => (name, .text state))),
      ("responses_enabled",
        .object (saved.enabled.entries.map fun (name, enabled) => (name, .bool enabled))),
      ("click_db",
        .object (saved.clicks.entries.map fun (member, count) =>
          (toString member, .number count.toNat)))]

structure Draft where
  states : Option (SortedMap String String) := none
  enabled : Option (SortedMap String Bool) := none
  clicks : Option (SortedMap UserId UInt64) := none

def record : Record Draft SavedState where
  name := "SavedState"
  fields :=
    [.of "responses_states" (·.states) (fun draft states => { draft with states := some states })
        (SortedMap.ofList <$> Reader.object Reader.key Reader.text) true,
      .of "responses_enabled" (·.enabled)
        (fun draft enabled => { draft with enabled := some enabled })
        (SortedMap.ofList <$> Reader.object Reader.key Reader.bool) true,
      .of "click_db" (·.clicks) (fun draft clicks => { draft with clicks := some clicks })
        (SortedMap.ofList <$> Reader.object (UserId.mk <$> Reader.numericKey) Reader.word64) true]
  start := {}
  finish draft :=
    .ok ⟨draft.states.getD .empty, draft.enabled.getD .empty, draft.clicks.getD .empty⟩

def ofJsonText (content : List Symbol) : Except Fault SavedState :=
  Reader.whole record.reader content

def fileText (saved : SavedState) : String :=
  saved.toJson.pretty

end AutoReply.SavedState
