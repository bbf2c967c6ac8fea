import AutoReply.Proofs.Console.StartUp

/-!
Users who are not the owner. Whatever they type, from the first moment of a start on, the rules keep
the states and flags that the start gives them.
-/

namespace AutoReply

open AutoReply.Chat AutoReply.Control AutoReply.Rule AutoReply.Storage AutoReply.Text

section

variable (service : Service) (clicker : String) (member : UserId) (memberName : String)

theorem Operation.registry_click :
    (Operation.perform service (.command (.click clicker member memberName))).later.live.registry =
      service.live.registry := by
  have saved := @Command.saves_of_change? service.live _ (.click clicker member memberName) rfl
  show ((Command.click clicker member memberName).perform service.live).2.registry = _
  rw [saved.after, Live.registry_saveChange]

end

theorem Operation.settings_message (platform : Platform) (luck : Luck) (event : MessageEvent)
    (service : Service) :
    (Operation.perform service (.message platform luck event)).later.live.registry.responses.map
      Response.settings = service.live.registry.responses.map Response.settings := by
  obtain ⟨registry, same, settings⟩ := live_handle platform luck event service
  show (service.handle platform luck event).2.1.live.registry.responses.map _ = _
  rw [same]
  exact settings

namespace Console

namespace Session

def IsStranger (session : Session) : Prop :=
  session.service.live.authorize session.user = .error .notOwner

variable {session : Session}

theorem IsStranger.congr {other : Session} (stranger : session.IsStranger)
    (owner : other.service.live.owner = session.service.live.owner)
    (arguments : other.arguments = session.arguments) : other.IsStranger := by
  unfold IsStranger Live.authorize user
  rw [owner, arguments]
  exact stranger

theorem IsStranger.answer_of_asksOperator (stranger : session.IsStranger) (moment : Moment)
    {line : String} (asks : AsksOperator line) :
    session.answer moment line = (session, [.rich (outcomeMessage (.error .notOwner))]) := by
  obtain ⟨command, read⟩ := ofText_of_asksOperator asks
  simp only [Session.answer, read, administer_of_error session stranger, Option.toList_some]

end Session

namespace Launch

variable {launch : Launch}

theorem stranger_take (stranger : launch.session.IsStranger) (turn : Turn) :
    (launch.take turn).1.session.IsStranger :=
  stranger.congr (launch.owner_take turn) (launch.arguments_take turn)

theorem stranger_after (stranger : launch.session.IsStranger) (turns : List Turn) :
    (launch.after turns).session.IsStranger := by
  induction turns generalizing launch with
  | nil => exact stranger
  | cons turn turns ih => exact ih (stranger_take stranger turn)

theorem click_of_operation? (stranger : launch.session.IsStranger) {moment : Moment}
    {text : String} {operation : Operation}
    (asked : launch.operation? (.line moment text) = some operation) :
    ∃ clicker member memberName, operation = .command (.click clicker member memberName) := by
  unfold operation? Session.operation? at asked
  cases kind : Line.ofText text with
  | message message => simp [kind] at asked
  | blank => simp [kind] at asked
  | admin command =>
      have refused : launch.session.service.live.authorize launch.session.user =
        .error .notOwner := stranger
      simp [kind, Session.adminOperation?, refused] at asked
  | command command =>
      simp only [kind] at asked
      obtain ⟨mention, _, rfl⟩ := Option.map_eq_some_iff.mp asked
      exact ⟨_, _, _, rfl⟩

theorem registry_line (stranger : launch.session.IsStranger) (moment : Moment) (text : String) :
    (launch.take (.line moment text)).1.service.live.registry = launch.service.live.registry := by
  rw [service_line]
  cases asked : launch.operation? (.line moment text) with
  | none => rfl
  | some operation =>
      obtain ⟨clicker, member, memberName, rfl⟩ := click_of_operation? stranger asked
      exact Operation.registry_click launch.service clicker member memberName

theorem document_of_stranger (stranger : launch.session.IsStranger) {turn : Turn}
    {attempt : SaveAttempt} (tried : launch.attempt? turn = some attempt) :
    attempt.document.states = launch.service.live.capture.states ∧
      attempt.document.enabled = launch.service.live.capture.enabled := by
  cases turn with
  | bot =>
      rw [attempt?_bot] at tried
      contradiction
  | line moment text =>
      obtain ⟨operation, asked, tried⟩ := Option.bind_eq_some_iff.mp tried
      obtain ⟨clicker, member, memberName, rfl⟩ := click_of_operation? stranger asked
      exact Operation.keeps_perform tried

theorem bot_of_running {restored : Option SavedState}
    (runs : launch.stage = .running restored) :
    (launch.take .bot).1.stage = .running restored ∧
      (launch.take .bot).1.service.live.registry.responses.map Response.settings =
        launch.service.live.registry.responses.map Response.settings := by
  rw [take_bot_of_running runs]
  unfold attendNext
  cases launch.waiting with
  | nil => exact ⟨runs, rfl⟩
  | cons first rest => exact ⟨runs, Operation.settings_message _ first.1 first.2 launch.service⟩

theorem rules_take {builtIn : List Response} (stranger : launch.session.IsStranger) (turn : Turn)
    (rules : launch.stage.Rules builtIn launch.service.live.registry.responses) :
    (launch.take turn).1.stage.Rules builtIn
      (launch.take turn).1.service.live.registry.responses := by
  cases turn with
  | line moment text =>
      rw [stage_line, registry_line stranger]
      exact rules
  | bot =>
      by_cases runs : ∃ restored, launch.stage = .running restored
      · obtain ⟨restored, runs⟩ := runs
        obtain ⟨still, same⟩ := bot_of_running runs
        rw [runs] at rules
        rw [still]
        exact same.trans rules
      · have starts := not_exists.mp runs
        rw [take_bot_of_starting starts]
        exact rules_startUp starts rules

theorem rules_after {builtIn : List Response} (stranger : launch.session.IsStranger)
    (rules : launch.stage.Rules builtIn launch.service.live.registry.responses)
    (turns : List Turn) : (launch.after turns).stage.Rules builtIn
      (launch.after turns).service.live.registry.responses := by
  induction turns generalizing launch with
  | nil => exact rules
  | cons turn turns ih =>
      exact ih (stranger_take stranger turn) (rules_take stranger turn rules)

theorem running_after {restored : Option SavedState} (stranger : launch.session.IsStranger)
    (runs : launch.stage = .running restored) (turns : List Turn) :
    (launch.after turns).stage = .running restored ∧
      (launch.after turns).service.live.registry.responses.map Response.settings =
        launch.service.live.registry.responses.map Response.settings := by
  induction turns generalizing launch with
  | nil => exact ⟨runs, rfl⟩
  | cons turn turns ih =>
      have step : (launch.take turn).1.stage = .running restored ∧
          (launch.take turn).1.service.live.registry.responses.map Response.settings =
            launch.service.live.registry.responses.map Response.settings := by
        cases turn with
        | bot => exact bot_of_running runs
        | line moment text =>
            rw [stage_line, registry_line stranger]
            exact ⟨runs, rfl⟩
      obtain ⟨still, same⟩ := ih (stranger_take stranger turn) step.1
      exact ⟨still, same.trans step.2⟩

def withStorage (launch : Launch) (storage : Storage) : Launch :=
  launch.withLive { launch.service.live with storage }

structure LeavesRules (launch : Launch) (turns : List Turn) : Prop where
  lines : ∀ before moment text after, turns = before ++ .line moment text :: after →
    ((launch.after before).take (.line moment text)).1.service.live.registry =
      (launch.after before).service.live.registry
  restored : ∀ restored, (launch.after turns).stage = .running restored →
    (∃ before after, turns = before ++ .bot :: after ∧ (launch.after before).stage = .loading ∧
      (launch.after before).found.restored? = some restored) ∧
    (launch.after turns).service.live.registry.responses.map Response.settings =
      (restored.elim launch.service.live.registry fun saved =>
        (saved.apply launch.service.live.registry).registry).responses.map Response.settings
  kept : ∀ before after restored, turns = before ++ after →
    (launch.after before).stage = .running restored →
      (launch.after turns).stage = .running restored ∧
      (launch.after turns).service.live.registry.responses.map Response.settings =
        (launch.after before).service.live.registry.responses.map Response.settings
  /-- Whatever storage there is, no save is tried on it. -/
  refused : ∀ before moment text after, turns = before ++ .line moment text :: after →
    AsksOperator text → ∀ storage,
      let earlier := (launch.after before).withStorage storage
      earlier.take (.line moment text) = (earlier, [.rich (outcomeMessage (.error .notOwner))])
  storage : (launch.after turns).service.live.storage =
    launch.service.live.storage.afterSaves ((launch.saves turns).map SaveAttempt.document)
  saved : ∀ before turn after attempt, turns = before ++ turn :: after →
    (launch.after before).attempt? turn = some attempt →
      attempt.document.states = (launch.after before).service.live.capture.states ∧
      attempt.document.enabled = (launch.after before).service.live.capture.enabled
  savedRestored : ∀ before turn after attempt restored, turns = before ++ turn :: after →
    (launch.after before).stage = .running restored →
    (launch.after before).attempt? turn = some attempt →
      attempt.document.states = (launch.after turns).service.live.capture.states ∧
      attempt.document.enabled = (launch.after turns).service.live.capture.enabled

theorem leavesRules (stranger : launch.session.IsStranger) (loading : launch.stage = .loading)
    (turns : List Turn) : launch.LeavesRules turns := by
  constructor
  case lines =>
    intro before moment text after _
    exact registry_line (stranger_after stranger before) moment text
  case restored =>
    intro restored runs
    refine ⟨found_of_restored? loading (congrArg Stage.restored? runs), ?_⟩
    have rules := @rules_after launch launch.service.live.registry.responses stranger
      (by rw [loading]; rfl) turns
    rw [runs] at rules
    cases restored with
    | none => exact rules
    | some saved =>
        rw [Option.elim_some, saved.registry_seed]
        exact rules
  case kept =>
    rintro before after restored rfl runs
    rw [after_append]
    exact running_after (stranger_after stranger before) runs after
  case refused =>
    intro before moment text after _ asks storage
    obtain ⟨command, read⟩ := ofText_of_asksOperator asks
    have there : ((launch.after before).withStorage storage).session.IsStranger :=
      stranger_after stranger before
    simp only [take, Launch.read, read, there.answer_of_asksOperator moment asks]
  case storage => exact storage_after turns
  case saved =>
    intro before turn after attempt _ tried
    exact document_of_stranger (stranger_after stranger before) tried
  case savedRestored =>
    rintro before turn after attempt restored rfl runs tried
    have there := stranger_after stranger before
    obtain ⟨states, enabled⟩ := document_of_stranger there tried
    have captured := capture_congr (running_after there runs (turn :: after)).2 .empty
    rw [after_append, states, enabled]
    exact ⟨(congrArg SavedState.states captured).symm, (congrArg SavedState.enabled captured).symm⟩

end Launch

/-- With an owner in the settings, no other user changes the rules from a terminal, whatever the
lines and whenever they come in. -/
theorem strangers_leave_rules {arguments : Arguments} {surroundings : Settings.Surroundings}
    {settings : Settings} {owner : UserId} {launch : Launch}
    (loaded : arguments.sources.load surroundings = .ok settings)
    (owned : settings.bot.ownerId = some owner) (other : (⟨arguments.user⟩ : UserId) ≠ owner)
    (started : Launch.start arguments surroundings = .ok launch)
    (turns : List Turn) : launch.LeavesRules turns := by
  unfold Launch.start at started
  cases made : Session.create arguments surroundings with
  | error error =>
      rw [made] at started
      cases started
  | ok created =>
      rw [made] at started
      obtain rfl := Except.ok.inj started
      refine Launch.leavesRules ?_ rfl turns
      obtain ⟨found, registry, foundLoaded, _, rfl⟩ := Session.create_eq_ok made
      rw [loaded] at foundLoaded
      obtain rfl := Except.ok.inj foundLoaded
      unfold Session.IsStranger Live.authorize Session.user
      simp only [Service.fresh, owned]
      exact if_neg other.symm

def ownedPlace : Settings.Surroundings :=
  .ofEnvironment ⟨["home"], [(["home"], .folder)]⟩
    (.ofList [("HOME", "/home"), ("AMADEUS_BOT__OWNER_ID", "7")])

def strangersTurns : List Turn :=
  [.line Session.anyMoment "/responsesX set all react", .bot, .bot,
    .line Session.anyMoment "/click @mayuri", .line Session.anyMoment "/responses",
    .line Session.anyMoment "thanks bot", .bot]

theorem user_one_leaves_rules :
    ∃ settings launch, ({} : Arguments).sources.load ownedPlace = .ok settings ∧
      settings.bot.ownerId = some ⟨7⟩ ∧ (⟨1⟩ : UserId) ≠ ⟨7⟩ ∧
      Launch.start {} ownedPlace = .ok launch ∧ launch.LeavesRules strangersTurns := by
  have starts : (Launch.start {} ownedPlace).toOption.isSome = true := by decide +kernel
  have owns : ((({} : Arguments).sources.load ownedPlace).toOption.map fun settings =>
      settings.bot.ownerId) = some (some ⟨7⟩) := by decide +kernel
  have different : (⟨1⟩ : UserId) ≠ ⟨7⟩ := by decide
  cases started : Launch.start {} ownedPlace with
  | error error => simp [started, Except.toOption] at starts
  | ok launch =>
      cases loaded : ({} : Arguments).sources.load ownedPlace with
      | error fault => simp [loaded, Except.toOption] at owns
      | ok settings =>
          have owned : settings.bot.ownerId = some ⟨7⟩ := by
            simpa [loaded, Except.toOption] using owns
          exact ⟨settings, launch, rfl, owned, different, rfl,
            strangers_leave_rules loaded owned different started strangersTurns⟩

def Launch.SavesRestored (launch : Launch) (turns : List Turn) : Prop :=
  ∀ attempt ∈ launch.saves turns,
    attempt.document.states = (launch.after turns).service.live.capture.states ∧
      attempt.document.enabled = (launch.after turns).service.live.capture.enabled

def tunedPlace : Settings.Surroundings :=
  { ownedPlace with files := ((ownedPlace.files.put ["home", "data"] .folder).put
      ["home", "data", "state.json"]
      (.file (symbols "\x7b\"responses_states\": \x7b\"Thanks Bot\": \"react\"\x7d\x7d"))) }

def earlyClick (launch : Launch) : List Turn :=
  .bot :: .line Session.anyMoment "/click @mayuri" :: launch.startUps

/-- The click of user 1 saves the built-in state of the rule over that of user 7, which the start
restores a moment later. -/
theorem early_click_saves_otherwise :
    ∃ settings launch, ({} : Arguments).sources.load tunedPlace = .ok settings ∧
      settings.bot.ownerId = some ⟨7⟩ ∧ (⟨1⟩ : UserId) ≠ ⟨7⟩ ∧
      Launch.start {} tunedPlace = .ok launch ∧ ¬ launch.SavesRestored (earlyClick launch) := by
  have saves : ((Launch.start {} tunedPlace).toOption.map fun launch =>
      ((launch.saves (earlyClick launch)).map fun attempt =>
          attempt.document.states.lookup "Thanks Bot",
        (launch.after (earlyClick launch)).service.live.capture.states.lookup "Thanks Bot")) =
      some ([some "message"], some "react") := by decide +kernel
  have owns : ((({} : Arguments).sources.load tunedPlace).toOption.map fun settings =>
      settings.bot.ownerId) = some (some ⟨7⟩) := by decide +kernel
  cases started : Launch.start {} tunedPlace with
  | error error => simp [started, Except.toOption] at saves
  | ok launch =>
      cases loaded : ({} : Arguments).sources.load tunedPlace with
      | error fault => simp [loaded, Except.toOption] at owns
      | ok settings =>
          have owned : settings.bot.ownerId = some ⟨7⟩ := by
            simpa [loaded, Except.toOption] using owns
          refine ⟨settings, launch, rfl, owned, by decide, rfl, fun restored => ?_⟩
          rw [started] at saves
          obtain ⟨documents, live⟩ := Prod.ext_iff.mp (Option.some.inj saves)
          simp only at documents live
          -- The only save has the state of the built-in rule, the rules have another in the end.
          obtain ⟨attempt, rest, listed⟩ : ∃ attempt rest,
              launch.saves (earlyClick launch) = attempt :: rest := by
            cases listed : launch.saves (earlyClick launch) with
            | nil => simp [listed] at documents
            | cons attempt rest => exact ⟨attempt, rest, rfl⟩
          have same := (restored attempt (listed ▸ List.mem_cons_self)).1
          rw [listed, List.map_cons, same, live] at documents
          simp at documents

end Console

end AutoReply
