import AutoReply.Proofs.Settings.Fields
import AutoReply.Proofs.Settings.Overlay
import AutoReply.Settings.Extract
import Mathlib.Data.List.Forall2

/-!
Settings that are read from a source: each shows what the source has in its place, or else what is
standard there.
-/

namespace AutoReply.Settings

open AutoReply.Chat AutoReply.Number Value

section

variable {ε α β : Type}

theorem bind_eq_ok {first : Except ε α} {next : α → Except ε β} {result : β} :
    (first >>= next) = .ok result ↔ ∃ value, first = .ok value ∧ next value = .ok result := by
  cases first <;> simp [bind, Except.bind]

theorem map_eq_ok {change : α → β} {first : Except ε α} {result : β} :
    (change <$> first) = .ok result ↔ ∃ value, first = .ok value ∧ change value = result := by
  cases first <;> simp [Functor.map, Except.map]

theorem exists_of_isOk {first : Except ε α} (succeeds : first.isOk = true) :
    ∃ value, first = .ok value := by
  cases first with
  | ok value => exact ⟨value, rfl⟩
  | error _ => contradiction

theorem forall₂_of_mapM {step : α → Except ε β} {items : List α} {results : List β}
    (all : items.mapM step = .ok results) :
    List.Forall₂ (fun item result => step item = .ok result) items results := by
  induction items generalizing results with
  | nil =>
      cases all
      exact .nil
  | cons item items ih =>
      rw [List.mapM_cons] at all
      obtain ⟨first, here, later⟩ := bind_eq_ok.mp all
      obtain ⟨rest, others, same⟩ := bind_eq_ok.mp later
      cases same
      exact .cons here (ih others)

end

/-- What is read shows at a place what the source has there, or else what is standard there. -/
def Follows {α : Type} (place : List String) (standard : α) (shown : α → Option Value)
    (read : Extract α) : Prop :=
  ∀ value result, Leads place value → read value = .ok result →
    shown result = (get? place value).or (shown standard)

theorem exists_table_of_leads {place : List String} {value : Value} (inside : place ≠ [])
    (leads : Leads place value) : ∃ members, value = .table members := by
  cases place with
  | nil => exact absurd rfl inside
  | cons name place =>
      obtain ⟨members, isTable, _⟩ := leads
      exact ⟨members, isTable⟩

def ReadsMember {α : Type} (members : List (String × Value)) (name : String) (standard : α)
    (read : String → Extract α) (result : α) : Prop :=
  Extract.member (fun name => members.lookup name) name standard read = .ok result

section

variable {α : Type} {shown : α → Option Value}

theorem ReadsMember.shows {place : List String} {name : String} {standard result : α}
    {read : String → Extract α} {members : List (String × Value)}
    (given : ReadsMember members name standard read result)
    (leads : Leads (name :: place) (.table members))
    (follows : Follows place standard shown (read name)) :
    shown result = (get? (name :: place) (.table members)).or (shown standard) := by
  obtain ⟨_, same, _, inner⟩ := leads
  cases same
  unfold ReadsMember Extract.member at given
  beta_reduce at given
  cases found : members.lookup name with
  | some value =>
      rw [found] at given
      rw [get?, found, Option.bind_some]
      exact follows value result (inner value found) given
  | none =>
      rw [found] at given
      cases given
      rw [get?, found, Option.bind_none, Option.none_or]

variable (standard : α) (name : String)

theorem follows_flag (standard : Bool) :
    Follows [] standard (fun value => some (.flag value)) (Extract.flag name) := by
  intro value result _ read
  cases value <;> cases read
  rfl

theorem follows_text (standard : String) :
    Follows [] standard (fun value => some (.text value)) (Extract.text name) := by
  intro value result _ read
  cases value <;> cases read
  rfl

theorem follows_user (standard : UserId) :
    Follows [] standard (fun value => some (userValue value)) (Extract.user name) := by
  intro value result _ read
  cases value with
  | integer number =>
      rw [Extract.user] at read
      split at read
      next bounds =>
        cases read
        have fits : number.toNat < 2 ^ 64 := by
          have below := bounds.2
          unfold wordCount at below
          omega
        have kept : userValue ⟨UInt64.ofNat number.toNat⟩ = .integer number := by
          rw [userValue, UInt64.toNat_ofNat_of_lt' fits, Int.toNat_of_nonneg bounds.1]
        exact congrArg some kept
      next => contradiction
  | _ => contradiction

theorem follows_optional {spell : α → Value} {read : Extract α}
    (follows : ∀ standard, Follows [] standard (fun value => some (spell value)) read)
    (standard : Option α) :
    Follows [] standard (fun value => some (.ofOption spell value)) (Extract.optional read) := by
  intro value result leads given
  unfold Extract.optional at given
  split at given
  next =>
    cases given
    rfl
  next =>
    obtain ⟨found, isRead, rfl⟩ := map_eq_ok.mp given
    exact follows found _ found leads isRead

theorem follows_word (spell : α → String) (all : List α) (standard : α) :
    Follows [] standard (fun choice => some (.text (spell choice)))
      (Extract.word name spell all) := by
  intro value result leads read
  unfold Extract.word at read
  split at read
  next word =>
    split at read
    next choice found =>
      cases read
      have same : spell result = word := by simpa using List.find?_some found
      exact congrArg (fun word => some (Value.text word)) same
    next => contradiction
  next word =>
    -- a tidy table has a value for each of its members
    rcases leads with none | tidy
    · contradiction
    · cases tidy with
      | table _ inner => cases inner (word, .nothing) (by simp)
  next => contradiction

end

def ReadsFilter (member : String × Value) (entry : String × LogLevel) : Prop :=
  entry.1 = member.1 ∧ Extract.level member.1 member.2 = .ok entry.2

section

variable {members : List (String × Value)} {entries : List (String × LogLevel)}

theorem names_of_readsFilter (all : List.Forall₂ ReadsFilter members entries) :
    names entries = names members := by
  induction all with
  | nil => rfl
  | cons here _ ih => exact congrArg₂ List.cons here.1 ih

theorem lookup_of_readsFilter (all : List.Forall₂ ReadsFilter members entries) (target : String) :
    (members.lookup target = none ∧ entries.lookup target = none) ∨
      ∃ value level, members.lookup target = some value ∧ entries.lookup target = some level ∧
        Extract.level target value = .ok level := by
  induction all with
  | nil => exact Or.inl ⟨rfl, rfl⟩
  | @cons member entry members entries here _ ih =>
      rw [SortedMap.lookup_cons_eq, SortedMap.lookup_cons_eq, here.1]
      by_cases same : target = member.1
      · rw [if_pos same, if_pos same, same]
        exact Or.inr ⟨member.2, entry.2, rfl, rfl, here.2⟩
      · rw [if_neg same, if_neg same]
        exact ih

end

theorem follows_filters (name target : String) (standard : SortedMap String LogLevel)
    (unset : standard.lookup target = none) :
    Follows [target] standard
      (fun filters => (filters.lookup target).map fun level => .text level.text)
      (Extract.filters name) := by
  intro value result leads read
  obtain ⟨members, rfl, distinct, inner⟩ := leads
  obtain ⟨entries, each, rfl⟩ := map_eq_ok.mp read
  have all : List.Forall₂ ReadsFilter members entries := by
    refine (forall₂_of_mapM each).imp fun member entry made => ?_
    obtain ⟨level, isRead, same⟩ := bind_eq_ok.mp made
    cases same
    exact ⟨rfl, isRead⟩
  have unique : (names entries).Nodup := names_of_readsFilter all ▸ distinct
  simp only [unset, SortedMap.lookup_ofList_of_nodup unique, Option.map_none, Option.or_none, get?]
  rcases lookup_of_readsFilter all target with ⟨absent, missing⟩ | ⟨value, level, here, found, isRead⟩
  · rw [absent, missing]
    rfl
  · have shown := follows_word target LogLevel.text LogLevel.all level value level
      (inner value here) isRead
    rw [here, found]
    exact shown

structure ReadsSpanEvents (members : List (String × Value)) (events : SpanEvents) : Prop where
  new : ReadsMember members "new" false Extract.flag events.new
  enter : ReadsMember members "enter" false Extract.flag events.enter
  exit : ReadsMember members "exit" false Extract.flag events.exit
  close : ReadsMember members "close" false Extract.flag events.close

theorem readsSpanEvents {extraction : Extraction} {name : String}
    {members : List (String × Value)} {events : SpanEvents}
    (read : spanEvents extraction name (.table members) = .ok events) :
    ReadsSpanEvents members events := by
  simp only [spanEvents, bind_eq_ok, Extract.parts, Except.ok.injEq, exists_eq_left'] at read
  obtain ⟨_, new, _, enter, _, exit, _, close, same⟩ := read
  cases same
  exact ⟨new, enter, exit, close⟩

theorem follows_spanEvents (extraction : Extraction) (name : String) (field : SpanField) :
    Follows field.place {} field.shown (spanEvents extraction name) := by
  intro value events leads read
  obtain ⟨members, rfl⟩ := exists_table_of_leads (by cases field <;> simp [SpanField.place]) leads
  have read := readsSpanEvents read
  cases field with
  | new => exact (read.new.shows leads (follows_flag "new" false) :)
  | enter => exact (read.enter.shows leads (follows_flag "enter" false) :)
  | exit => exact (read.exit.shows leads (follows_flag "exit" false) :)
  | close => exact (read.close.shows leads (follows_flag "close" false) :)

structure ReadsLogSettings (extraction : Extraction) (members : List (String × Value))
    (logging : LogSettings) : Prop where
  level : ReadsMember members "level" .info Extract.level logging.level
  format : ReadsMember members "format" .compact
    (fun name => Extract.word name LogFormat.text LogFormat.all) logging.format
  output : ReadsMember members "output" .stdout
    (fun name => Extract.word name LogOutput.text LogOutput.all) logging.output
  filePath : ReadsMember members "file_path" none (fun name => Extract.optional (Extract.text name))
    logging.filePath
  rotateDaily : ReadsMember members "rotate_daily" false Extract.flag logging.rotateDaily
  spanEvents : ReadsMember members "span_events" {} (spanEvents extraction) logging.spanEvents
  threadIds : ReadsMember members "thread_ids" false Extract.flag logging.threadIds
  fileLocation : ReadsMember members "file_location" false Extract.flag logging.fileLocation
  filters : ReadsMember members "filters" .empty Extract.filters logging.filters

theorem readsLogSettings {extraction : Extraction} {name : String}
    {members : List (String × Value)} {logging : LogSettings}
    (read : logSettings extraction name (.table members) = .ok logging) :
    ReadsLogSettings extraction members logging := by
  simp only [logSettings, bind_eq_ok, Extract.parts, Except.ok.injEq, exists_eq_left'] at read
  obtain ⟨_, level, _, format, _, output, _, filePath, _, rotateDaily, _, spanEvents, _, threadIds,
    _, fileLocation, _, filters, same⟩ := read
  cases same
  exact ⟨level, format, output, filePath, rotateDaily, spanEvents, threadIds, fileLocation, filters⟩

theorem follows_logSettings (extraction : Extraction) (name : String) (field : LogField) :
    Follows field.place {} field.shown (logSettings extraction name) := by
  intro value logging leads read
  obtain ⟨members, rfl⟩ := exists_table_of_leads (by cases field <;> simp [LogField.place]) leads
  have read := readsLogSettings read
  cases field with
  | level => exact (read.level.shows leads (follows_word "level" LogLevel.text LogLevel.all .info) :)
  | format => exact (read.format.shows leads (follows_word "format" LogFormat.text LogFormat.all .compact) :)
  | output => exact (read.output.shows leads (follows_word "output" LogOutput.text LogOutput.all .stdout) :)
  | filePath =>
      exact (read.filePath.shows leads (follows_optional (follows_text "file_path") none) :)
  | rotateDaily => exact (read.rotateDaily.shows leads (follows_flag "rotate_daily" false) :)
  | spanEvents field =>
      exact (read.spanEvents.shows leads (follows_spanEvents extraction "span_events" field) :)
  | threadIds => exact (read.threadIds.shows leads (follows_flag "thread_ids" false) :)
  | fileLocation => exact (read.fileLocation.shows leads (follows_flag "file_location" false) :)
  | filter target =>
      exact (read.filters.shows leads (follows_filters "filters" target .empty rfl) :)

structure ReadsBotSettings (members : List (String × Value)) (bot : BotSettings) : Prop where
  id : ReadsMember members "id" ({} : BotSettings).id Extract.user bot.id
  name : ReadsMember members "name" "Amadeus" Extract.text bot.name
  ownerId : ReadsMember members "owner_id" none (fun name => Extract.optional (Extract.user name))
    bot.ownerId

theorem readsBotSettings {extraction : Extraction} {name : String}
    {members : List (String × Value)} {bot : BotSettings}
    (read : botSettings extraction name (.table members) = .ok bot) :
    ReadsBotSettings members bot := by
  simp only [botSettings, bind_eq_ok, Extract.parts, Except.ok.injEq, exists_eq_left'] at read
  obtain ⟨_, id, _, name, _, ownerId, same⟩ := read
  cases same
  exact ⟨id, name, ownerId⟩

theorem follows_botSettings (extraction : Extraction) (name : String) (field : BotField) :
    Follows field.place {} field.shown (botSettings extraction name) := by
  intro value bot leads read
  obtain ⟨members, rfl⟩ := exists_table_of_leads (by cases field <;> simp [BotField.place]) leads
  have read := readsBotSettings read
  cases field with
  | id => exact (read.id.shows leads (follows_user "id" _) :)
  | name => exact (read.name.shows leads (follows_text "name" "Amadeus") :)
  | ownerId => exact (read.ownerId.shows leads (follows_optional (follows_user "owner_id") none) :)

structure ReadsStateSettings (members : List (String × Value)) (state : StateSettings) :
    Prop where
  path : ReadsMember members "path" "data/state.json" Extract.text state.path
  restoreOnStart : ReadsMember members "restore_on_start" true Extract.flag state.restoreOnStart
  saveOnChange : ReadsMember members "save_on_change" true Extract.flag state.saveOnChange

theorem readsStateSettings {extraction : Extraction} {name : String}
    {members : List (String × Value)} {state : StateSettings}
    (read : stateSettings extraction name (.table members) = .ok state) :
    ReadsStateSettings members state := by
  simp only [stateSettings, bind_eq_ok, Extract.parts, Except.ok.injEq, exists_eq_left'] at read
  obtain ⟨_, path, _, restoreOnStart, _, saveOnChange, same⟩ := read
  cases same
  exact ⟨path, restoreOnStart, saveOnChange⟩

theorem follows_stateSettings (extraction : Extraction) (name : String) (field : StateField) :
    Follows field.place {} field.shown (stateSettings extraction name) := by
  intro value state leads read
  obtain ⟨members, rfl⟩ := exists_table_of_leads (by cases field <;> simp [StateField.place]) leads
  have read := readsStateSettings read
  cases field with
  | path => exact (read.path.shows leads (follows_text "path" "data/state.json") :)
  | restoreOnStart =>
      exact (read.restoreOnStart.shows leads (follows_flag "restore_on_start" true) :)
  | saveOnChange => exact (read.saveOnChange.shows leads (follows_flag "save_on_change" true) :)

structure ReadsSettings (extraction : Extraction) (members : List (String × Value))
    (settings : Settings) : Prop where
  logging : ReadsMember members "logging" {} (logSettings extraction) settings.logging
  bot : ReadsMember members "bot" {} (botSettings extraction) settings.bot
  state : ReadsMember members "state" {} (stateSettings extraction) settings.state

theorem readsSettings {extraction : Extraction} {members : List (String × Value)}
    {settings : Settings} (read : extract extraction (.table members) = .ok settings) :
    ReadsSettings extraction members settings := by
  simp only [extract, bind_eq_ok, Extract.parts, Except.ok.injEq, exists_eq_left'] at read
  obtain ⟨_, logging, _, bot, _, state, same⟩ := read
  cases same
  exact ⟨logging, bot, state⟩

/-- Every field that is read shows what the source has in its place. -/
theorem follows_extract (extraction : Extraction) (field : Field) :
    Follows field.place {} field.shown (extract extraction) := by
  intro value settings leads read
  obtain ⟨members, rfl⟩ := exists_table_of_leads (by cases field <;> simp [Field.place]) leads
  have read := readsSettings read
  cases field with
  | logging field =>
      exact (read.logging.shows leads (follows_logSettings extraction "logging" field) :)
  | bot field => exact (read.bot.shows leads (follows_botSettings extraction "bot" field) :)
  | state field => exact (read.state.shows leads (follows_stateSettings extraction "state" field) :)

end AutoReply.Settings
