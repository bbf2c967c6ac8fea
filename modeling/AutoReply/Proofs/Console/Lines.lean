import AutoReply.Console.Session
import AutoReply.Proofs.Control.Requests
import AutoReply.Proofs.Service.Clicks

/-!
What the lines of a session do to the bot behind it. A line is at most one operation on the bot, so
a session is a run of it; what is not an operation is answered from the line alone.
-/

namespace AutoReply

open AutoReply.Chat AutoReply.Control AutoReply.Rule AutoReply.Storage AutoReply.Text

namespace Operation

theorem settings_perform (service : Service) (operation : Operation) :
    (operation.perform service).later.settings = service.settings := by
  cases operation with
  | command command => rfl
  | message platform luck event =>
      show (service.handle platform luck event).2.1.settings = _
      unfold Service.handle
      split <;> rfl

theorem owner_perform (service : Service) (operation : Operation) :
    (operation.perform service).later.live.owner = service.live.owner := by
  obtain ⟨registry, storage, same⟩ := operation.live_perform service
  rw [same]

end Operation

theorem Text.afterStart_append (start rest : List Char) :
    afterStart start (start ++ rest) = some rest := by
  induction start with
  | nil => rfl
  | cons character start ih => simp [afterStart, ih]

theorem Service.begin_eq (service : Service) : ∃ registry clicks,
    service.begin.1 = { service with live := { service.live with registry, clicks } } := by
  unfold begin restore
  split
  · generalize service.live.storage.load = found
    rcases found with ⟨_ | _ | saved, notes⟩ <;> exact ⟨_, _, rfl⟩
  · exact ⟨_, _, rfl⟩

namespace Console

def AdminCommand.asked? : AdminCommand → Option Control.Command
  | setState target state => some (.setState target state)
  | enable target => some (.enable target)
  | disable target => some (.disable target)
  | _ => none

def AsksOperator (line : String) : Prop :=
  "/responses".toList <+: trim line.toList

theorem ofText_of_asksOperator {line : String} (asks : AsksOperator line) :
    ∃ command, Line.ofText line = .admin command := by
  obtain ⟨rest, written⟩ := asks
  refine ⟨.ofChars (trim rest), ?_⟩
  simp only [Line.ofText, ← written, afterStart_append]

namespace Session

def anyMoment : Moment where
  time := ⟨0, 0⟩
  day := .ofDays 0
  luck := .ofSeed 0
  waited := (0, 0)

variable (session : Session) (moment : Moment) (line : String)

def mentioned : List Mention :=
  (mentionsIn session.bot session.known line).1

def clicked? : Option Mention :=
  match Line.ofText line with
  | .command .click => (session.mentioned line).head?
  | _ => none

def messageOperation (text : String) : Operation :=
  let (id, history) := session.history.record session.channel session.user
  .message { session with history }.platform moment.luck
    { id, text, mentions := session.mentioned line
      channel := session.channel
      author := { id := session.user, name := session.arguments.name }
      time := moment.time }

def clickOperation (mention : Mention) : Operation :=
  .command (.click session.arguments.name mention.id mention.name)

def adminOperation? (command : AdminCommand) : Option Operation :=
  match session.service.live.authorize session.user with
  | .ok () => command.asked?.map .command
  | .error _ => none

/-- The operation that a line is, unless it leaves the bot alone. -/
def operation? : Option Operation :=
  match Line.ofText line with
  | .admin command => session.adminOperation? command
  | .command _ => (session.clicked? line).map session.clickOperation
  | .message text => some (session.messageOperation moment line text)
  | .blank => none

def serviceAfter (asked : Option Operation) : Service :=
  asked.elim session.service fun operation => (operation.perform session.service).later

def knownAfter : KnownUsers :=
  match Line.ofText line with
  | .command _ => (mentionsIn session.bot session.known line).2
  | .message _ => (mentionsIn session.bot session.known line).2
  | _ => session.known

def operations : Session → List (Moment × String) → List Operation
  | _, [] => []
  | session, (moment, line) :: lines =>
      (session.operation? moment line).toList ++
        operations (session.answer moment line).1 lines

def saves (lines : List (Moment × String)) : List SaveAttempt :=
  (performAll (session.operations lines) session.service).filterMap Performed.attempt?

theorem administer_of_error {error : AdminError}
    (refused : session.service.live.authorize session.user = .error error)
    (command : AdminCommand) :
    session.administer command = (session, some (.rich (outcomeMessage (.error error)))) := by
  simp only [administer, refused]

theorem administer_eq (command : AdminCommand) : (session.administer command).1 =
    { session with service := session.serviceAfter (session.adminOperation? command) } := by
  unfold adminOperation?
  cases allowed : session.service.live.authorize session.user with
  | error error =>
      rw [administer_of_error session allowed]
      rfl
  | ok _ =>
      simp only [administer, allowed]
      cases command <;> rfl

theorem click_eq (mentions : List Mention) : (session.click mentions).1 =
    { session with
      service := session.serviceAfter (mentions.head?.map session.clickOperation) } := by
  cases mentions <;> rfl

/-- A line changes the bot by its operation; all else that stays of it are messages and names. -/
theorem answer_eq : ∃ history, (session.answer moment line).1 =
    { session with
      service := session.serviceAfter (session.operation? moment line)
      history
      known := session.knownAfter line } := by
  unfold answer operation? knownAfter
  cases read : Line.ofText line with
  | blank => exact ⟨_, rfl⟩
  | message text => exact ⟨_, rfl⟩
  | admin command => exact ⟨_, session.administer_eq command⟩
  | command command =>
      cases command with
      | click =>
          simp only [clicked?, read]
          exact ⟨_, Session.click_eq { session with known := _ } (session.mentioned line)⟩
      | _ =>
          simp only [clicked?, read]
          exact ⟨_, rfl⟩

theorem service_answer :
    (session.answer moment line).1.service =
      session.serviceAfter (session.operation? moment line) := by
  obtain ⟨history, same⟩ := session.answer_eq moment line
  rw [same]

theorem arguments_answer : (session.answer moment line).1.arguments = session.arguments := by
  obtain ⟨history, same⟩ := session.answer_eq moment line
  rw [same]

theorem known_answer : (session.answer moment line).1.known = session.knownAfter line := by
  obtain ⟨history, same⟩ := session.answer_eq moment line
  rw [same]

variable (lines : List (Moment × String))

/-- A session is a run of the bot. -/
theorem service_answerAll :
    (session.answerAll lines).1.service = reached (session.operations lines) session.service := by
  induction lines generalizing session with
  | nil => rfl
  | cons first lines ih =>
      obtain ⟨moment, line⟩ := first
      have step := session.service_answer moment line
      simp only [answerAll, operations, ih, reached_append]
      rw [step]
      cases session.operation? moment line <;> rfl

theorem arguments_answerAll : (session.answerAll lines).1.arguments = session.arguments := by
  induction lines generalizing session with
  | nil => rfl
  | cons first lines ih =>
      obtain ⟨moment, line⟩ := first
      simp only [answerAll, ih, arguments_answer]

theorem create_eq_ok {arguments : Arguments} {surroundings : Settings.Surroundings}
    {session : Session} (created : create arguments surroundings = .ok session) :
    ∃ settings registry, arguments.sources.load surroundings = .ok settings ∧
      Builtin.registry settings.bot.id = .ok registry ∧
      session = ⟨arguments, .fresh settings registry
        ⟨surroundings.files, .file settings.state.path⟩, {}, .empty⟩ := by
  unfold create at created
  cases loaded : arguments.sources.load surroundings with
  | error fault => simp [loaded, Except.mapError, bind, Except.bind] at created
  | ok settings =>
      cases built : Builtin.registry settings.bot.id with
      | error error => simp [loaded, built, Except.mapError, bind, Except.bind] at created
      | ok registry =>
          refine ⟨settings, registry, rfl, built, ?_⟩
          simp only [loaded, built, Except.mapError, bind, Except.bind, Service.start] at created
          cases checked : settings.check surroundings.files with
          | error fault => simp [checked] at created
          | ok _ =>
              simp only [checked, pure, Except.pure] at created
              exact (Except.ok.inj created).symm

theorem start_eq (arguments : Arguments) (surroundings : Settings.Surroundings) :
    start arguments surroundings = (create arguments surroundings).map fun session =>
      { session with service := session.service.begin.1 } := by
  unfold start
  cases create arguments surroundings <;> rfl

theorem start_eq_ok {arguments : Arguments} {surroundings : Settings.Surroundings}
    {session : Session} (started : start arguments surroundings = .ok session) :
    ∃ settings registry, arguments.sources.load surroundings = .ok settings ∧
      Builtin.registry settings.bot.id = .ok registry ∧
      session = { arguments, service := (Service.fresh settings registry
        ⟨surroundings.files, .file settings.state.path⟩).begin.1 } := by
  rw [start_eq] at started
  cases made : create arguments surroundings with
  | error error =>
      rw [made] at started
      cases started
  | ok created =>
      rw [made] at started
      obtain ⟨settings, registry, loaded, built, rfl⟩ := create_eq_ok made
      exact ⟨settings, registry, loaded, built, (Except.ok.inj started).symm⟩

end Session

end Console

end AutoReply
