import AutoReply.Proofs.Settings.Fields
import AutoReply.Proofs.Settings.Overlay
import AutoReply.Settings.JsonForm

/-!
Settings that are written out as a source: every place is mentioned, also that of a value that is
missing.
-/

namespace AutoReply.Settings

open AutoReply.Chat Value

theorem nodup_names_ofMembers (members : List (String × Json)) {read : List (String × Value)}
    (distinct : (names read).Nodup) : (names (Value.ofMembers read members)).Nodup := by
  induction members generalizing read with
  | nil => exact distinct
  | cons member rest ih =>
      rw [Value.ofMembers]
      exact ih (nodup_names_put _ _ distinct)

theorem lookup_ofMembers {members : List (String × Json)} (distinct : (names members).Nodup)
    (read : List (String × Value)) (name : String) :
    (Value.ofMembers read members).lookup name =
      ((members.lookup name).map Value.ofJson).or (read.lookup name) := by
  induction members generalizing read with
  | nil => rfl
  | cons member rest ih =>
      obtain ⟨new, others⟩ := List.nodup_cons.mp distinct
      rw [Value.ofMembers, ih others, lookup_put, SortedMap.lookup_cons_eq]
      by_cases here : name = member.1
      · have absent : rest.lookup member.1 = none := lookup_eq_none_of_notMem new
        simp [here, absent]
      · simp [here]

/-- As a source of settings, JSON has a value at a place, and only tables lead there. -/
structure Writes (place : List String) (json : Json) (shown : Option Value) : Prop where
  leads : Leads place (.ofJson json)
  shows : get? place (.ofJson json) = shown

namespace Writes

variable {place : List String} {name : String} {members : List (String × Json)}

theorem member {json : Json} {shown : Option Value} (inner : Writes place json shown)
    (distinct : (names members).Nodup) (found : members.lookup name = some json) :
    Writes (name :: place) (.object members) shown := by
  have here : (Value.ofMembers [] members).lookup name = some (.ofJson json) := by
    rw [lookup_ofMembers distinct, found]
    rfl
  constructor
  · refine ⟨Value.ofMembers [] members, by rw [Value.ofJson],
      nodup_names_ofMembers members List.nodup_nil, ?_⟩
    intro next isNext
    cases here.symm.trans isNext
    exact inner.leads
  · rw [Value.ofJson, get?, here]
    exact inner.shows

theorem missing (distinct : (names members).Nodup) (absent : members.lookup name = none) :
    Writes (name :: place) (.object members) none := by
  have nowhere : (Value.ofMembers [] members).lookup name = none := by
    rw [lookup_ofMembers distinct, absent]
    rfl
  constructor
  · refine ⟨Value.ofMembers [] members, by rw [Value.ofJson],
      nodup_names_ofMembers members List.nodup_nil, ?_⟩
    intro next isNext
    cases nowhere.symm.trans isNext
  · rw [Value.ofJson, get?, nowhere]
    rfl

theorem bool (value : Bool) : Writes [] (.bool value) (some (.flag value)) :=
  ⟨Or.inr (.flag value), rfl⟩

theorem text (value : String) : Writes [] (.text value) (some (.text value)) :=
  ⟨Or.inr (.text value), rfl⟩

theorem user (user : UserId) : Writes [] (userJson user) (some (userValue user)) :=
  ⟨Or.inr (.integer _), rfl⟩

theorem option {α : Type} {write : α → Json} {spell : α → Value}
    (each : ∀ value, Writes [] (write value) (some (spell value))) (value : Option α) :
    Writes [] (.option write value) (some (.ofOption spell value)) := by
  cases value with
  | none => exact ⟨Or.inl rfl, rfl⟩
  | some value => exact each value

end Writes

theorem writes_spanEvents (events : SpanEvents) (field : SpanField) :
    Writes field.place (spanEventsJson events) (field.shown events) := by
  cases field <;> exact Writes.member (.bool _) (by simp [names]) rfl

theorem writes_filters (filters : SortedMap String LogLevel) (target : String) :
    Writes [target]
      (.object (filters.entries.map fun (target, level) => (target, .text level.text)))
      ((filters.lookup target).map fun level => .text level.text) := by
  have distinct : (names (filters.entries.map fun (target, level) =>
      (target, Json.text level.text))).Nodup := by
    rw [names, List.map_map]
    exact filters.nodup_keys
  have written := SortedMap.lookup_map (fun level => Json.text (LogLevel.text level)) filters.entries
    target
  rw [SortedMap.lookup]
  cases found : filters.entries.lookup target with
  | none => exact .missing distinct (by rw [written, found]; rfl)
  | some level => exact .member (.text level.text) distinct (by rw [written, found]; rfl)

theorem writes_logging (logging : LogSettings) (field : LogField) :
    Writes field.place (loggingJson logging) (field.shown logging) := by
  cases field with
  | level => exact .member (.text _) (by simp [names]) rfl
  | format => exact .member (.text _) (by simp [names]) rfl
  | output => exact .member (.text _) (by simp [names]) rfl
  | filePath => exact .member (.option Writes.text _) (by simp [names]) rfl
  | rotateDaily => exact .member (.bool _) (by simp [names]) rfl
  | spanEvents field => exact .member (writes_spanEvents _ field) (by simp [names]) rfl
  | threadIds => exact .member (.bool _) (by simp [names]) rfl
  | fileLocation => exact .member (.bool _) (by simp [names]) rfl
  | filter target => exact .member (writes_filters _ target) (by simp [names]) rfl

theorem writes_bot (bot : BotSettings) (field : BotField) :
    Writes field.place (botJson bot) (field.shown bot) := by
  cases field with
  | id => exact .member (.user _) (by simp [names]) rfl
  | name => exact .member (.text _) (by simp [names]) rfl
  | ownerId => exact .member (.option Writes.user _) (by simp [names]) rfl

theorem writes_state (state : StateSettings) (field : StateField) :
    Writes field.place (stateJson state) (field.shown state) := by
  cases field with
  | path => exact .member (.text _) (by simp [names]) rfl
  | restoreOnStart => exact .member (.bool _) (by simp [names]) rfl
  | saveOnChange => exact .member (.bool _) (by simp [names]) rfl

theorem writes_settings (settings : Settings) (field : Field) :
    Writes field.place settings.toJson (field.shown settings) := by
  cases field with
  | logging field => exact .member (writes_logging _ field) (by simp [names]) rfl
  | bot field => exact .member (writes_bot _ field) (by simp [names]) rfl
  | state field => exact .member (writes_state _ field) (by simp [names]) rfl

end AutoReply.Settings
