import AutoReply.Console.Session

/-!
A session whose lines are read beside the bot's own work. The bot takes over what was saved, rule by
rule, and then message after message. A line that is a message waits for that; a command is answered
at once, also while the bot still starts.
-/

namespace AutoReply.Console

open AutoReply.Chat AutoReply.Control AutoReply.Rule AutoReply.Storage

/-- How far the bot has come. -/
inductive Stage
  | loading
  | loaded (saved : SavedState)
  /-- The clicks are taken over, the states of some rules, and then their flags. -/
  | adopting (saved : SavedState) (states flags : Nat)
  | running (restored : Option SavedState)

structure Launch where
  session : Session
  stage : Stage := .loading
  waiting : List (Luck × MessageEvent) := []

/-- Who is next: the bot, or the reader with a line. -/
inductive Turn
  | bot
  | line (moment : Moment) (text : String)

namespace Launch

def service (launch : Launch) : Service :=
  launch.session.service

def withLive (launch : Launch) (live : Live) : Launch :=
  { launch with session := launch.session.withLive live }

def changeRule (launch : Launch) (place : Nat) (change : Response → Response) : Launch :=
  let live := launch.service.live
  launch.withLive { live with registry := ⟨live.registry.responses.modify place change⟩ }

/-- The stage after what was saved has been read. -/
def found (launch : Launch) : Stage :=
  if launch.service.settings.state.restoreOnStart then
    match launch.service.live.storage.load.1 with
    | .ok (some saved) => .loaded saved
    | _ => .running none
  else .running none

/-- The next step of the start, if it is not over. -/
def startUp (launch : Launch) : Launch :=
  let live := launch.service.live
  match launch.stage with
  | .loading => { launch with stage := launch.found }
  | .loaded saved =>
      { launch.withLive { live with clicks := saved.board } with stage := .adopting saved 0 0 }
  | .adopting saved states flags =>
      if states < live.registry.responses.length then
        { launch.changeRule states saved.restate with stage := .adopting saved (states + 1) flags }
      else if flags < live.registry.responses.length then
        { launch.changeRule flags saved.retoggle with stage := .adopting saved states (flags + 1) }
      else { launch with stage := .running (some saved) }
  | .running _ => launch

def attendNext (launch : Launch) : Launch × List Reply :=
  match launch.waiting with
  | [] => (launch, [])
  | (luck, event) :: waiting =>
      let (session, replies) := launch.session.attend luck event
      ({ launch with session, waiting }, replies)

def work (launch : Launch) : Launch × List Reply :=
  match launch.stage with
  | .running _ => launch.attendNext
  | _ => (launch.startUp, [])

def read (launch : Launch) (moment : Moment) (line : String) : Launch × List Reply :=
  match Line.ofText line with
  | .message text =>
      let session := launch.session
      let (mentions, known) := mentionsIn session.bot session.known line
      let (session, message) := { session with known }.note moment text mentions
      ({ launch with session, waiting := launch.waiting ++ [message] }, [])
  | _ =>
      let (session, replies) := launch.session.answer moment line
      ({ launch with session }, replies)

def take (launch : Launch) : Turn → Launch × List Reply
  | .bot => launch.work
  | .line moment text => launch.read moment text

def takeAll (launch : Launch) : List Turn → Launch × List Reply
  | [] => (launch, [])
  | turn :: turns =>
      let (next, replies) := launch.take turn
      let (last, others) := next.takeAll turns
      (last, replies ++ others)

/-- The turns of a whole start: what was saved is read, the clicks are taken over, the state and the
flag of every rule, and then the bot runs. -/
def startUps (launch : Launch) : List Turn :=
  .replicate (2 * launch.service.live.registry.responses.length + 3) .bot

end Launch

/-- The bot attends to every line before the next one is read. -/
def inTurn (lines : List (Moment × String)) : List Turn :=
  lines.flatMap fun (moment, line) => [.line moment line, .bot]

/-- A bot that has its settings and is about to start. -/
def Launch.start (arguments : Arguments) (surroundings : Settings.Surroundings) :
    Except StartError Launch :=
  (Session.create arguments surroundings).map fun session => { session }

end AutoReply.Console
