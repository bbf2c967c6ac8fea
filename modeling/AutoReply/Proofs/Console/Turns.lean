import AutoReply.Console.Launch
import AutoReply.Proofs.Console.Lines

/-!
The turns of the bot and of the reader. A turn is at most one operation on the bot, or a step of its
start; and lines that come in one by one are answered as a session answers them.
-/

namespace AutoReply.Console

open AutoReply.Chat AutoReply.Rule AutoReply.Storage

namespace Launch

variable (launch : Launch)

def after (turns : List Turn) : Launch :=
  (launch.takeAll turns).1

theorem takeAll_append (turns others : List Turn) : launch.takeAll (turns ++ others) =
    (((launch.takeAll turns).1.takeAll others).1,
      (launch.takeAll turns).2 ++ ((launch.takeAll turns).1.takeAll others).2) := by
  induction turns generalizing launch with
  | nil => rfl
  | cons turn turns ih => simp only [List.cons_append, takeAll, ih, List.append_assoc]

theorem after_append (turns others : List Turn) :
    launch.after (turns ++ others) = (launch.after turns).after others := by
  unfold after
  rw [takeAll_append]

/-- The operation on the bot that a turn is; the steps of the start are none. -/
def operation? : Turn → Option Operation
  | .bot =>
      match launch.stage, launch.waiting with
      | .running _, (luck, event) :: _ => some (.message launch.session.platform luck event)
      | _, _ => none
  | .line moment text =>
      match Line.ofText text with
      | .message _ => none
      | _ => launch.session.operation? moment text

def attempt? (turn : Turn) : Option SaveAttempt :=
  (launch.operation? turn).bind fun operation => (operation.perform launch.service).attempt?

def saves : Launch → List Turn → List SaveAttempt
  | _, [] => []
  | launch, turn :: turns => (launch.attempt? turn).toList ++ saves (launch.take turn).1 turns

/-- The launch after a turn that is no step of the start. -/
def answered (turn : Turn) (history : History) (known : KnownUsers)
    (waiting : List (Luck × MessageEvent)) : Launch :=
  { launch with
    session := { launch.session with
      service := launch.session.serviceAfter (launch.operation? turn), history, known }
    waiting }

theorem take_line (moment : Moment) (text : String) : ∃ history known waiting,
    (launch.take (.line moment text)).1 =
      launch.answered (.line moment text) history known waiting := by
  obtain ⟨history, same⟩ := launch.session.answer_eq moment text
  simp only [take, read, answered, operation?]
  cases Line.ofText text with
  | message message => exact ⟨_, _, _, rfl⟩
  | _ =>
      refine ⟨history, launch.session.knownAfter text, launch.waiting, ?_⟩
      simp only [same]

theorem take_cases (turn : Turn) :
    (∃ history known waiting, (launch.take turn).1 = launch.answered turn history known waiting) ∨
    (turn = .bot ∧ launch.operation? turn = none ∧ launch.take turn = (launch.startUp, []) ∧
      ∀ restored, launch.stage ≠ .running restored) := by
  cases turn with
  | line moment text => exact .inl (launch.take_line moment text)
  | bot =>
      obtain ⟨session, stage, waiting⟩ := launch
      cases stage with
      | running restored =>
          left
          cases waiting with
          | nil => exact ⟨_, _, _, rfl⟩
          | cons first rest => exact ⟨_, _, _, rfl⟩
      | _ => exact .inr ⟨rfl, rfl, rfl, fun _ same => (nomatch same)⟩

theorem startUp_eq : ∃ registry clicks stage, launch.startUp =
    { launch.withLive { launch.service.live with registry, clicks } with stage } := by
  unfold startUp
  cases launch.stage with
  | adopting saved states flags =>
      simp only
      split
      · exact ⟨_, _, _, rfl⟩
      · split <;> exact ⟨_, _, _, rfl⟩
  | _ => exact ⟨_, _, _, rfl⟩

theorem storage_take (turn : Turn) : (launch.take turn).1.service.live.storage =
    launch.service.live.storage.afterSaves
      ((launch.attempt? turn).toList.map SaveAttempt.document) := by
  unfold attempt?
  rcases launch.take_cases turn with ⟨history, known, waiting, same⟩ | ⟨_, idle, same, _⟩
  · rw [same]
    show (launch.session.serviceAfter (launch.operation? turn)).live.storage = _
    cases launch.operation? turn with
    | none => rfl
    | some operation => exact operation.storage_perform launch.service
  · obtain ⟨registry, clicks, stage, started⟩ := launch.startUp_eq
    rw [same, started, idle]
    rfl

theorem owner_take (turn : Turn) :
    (launch.take turn).1.service.live.owner = launch.service.live.owner := by
  rcases launch.take_cases turn with ⟨history, known, waiting, same⟩ | ⟨_, _, same, _⟩
  · rw [same]
    show (launch.session.serviceAfter (launch.operation? turn)).live.owner = _
    cases launch.operation? turn with
    | none => rfl
    | some operation => exact operation.owner_perform launch.service
  · obtain ⟨registry, clicks, stage, started⟩ := launch.startUp_eq
    rw [same, started]
    rfl

theorem arguments_take (turn : Turn) :
    (launch.take turn).1.session.arguments = launch.session.arguments := by
  rcases launch.take_cases turn with ⟨history, known, waiting, same⟩ | ⟨_, _, same, _⟩
  · rw [same]
    rfl
  · obtain ⟨registry, clicks, stage, started⟩ := launch.startUp_eq
    rw [same, started]
    rfl

theorem service_line (moment : Moment) (text : String) :
    (launch.take (.line moment text)).1.service =
      launch.session.serviceAfter (launch.operation? (.line moment text)) := by
  obtain ⟨history, known, waiting, same⟩ := launch.take_line moment text
  rw [same]
  rfl

theorem stage_line (moment : Moment) (text : String) :
    (launch.take (.line moment text)).1.stage = launch.stage := by
  obtain ⟨history, known, waiting, same⟩ := launch.take_line moment text
  rw [same]
  rfl

theorem attempt?_bot : launch.attempt? .bot = none := by
  simp only [attempt?, operation?]
  split <;> rfl

variable {launch} {restored : Option SavedState}

theorem storage_after (turns : List Turn) : (launch.after turns).service.live.storage =
    launch.service.live.storage.afterSaves ((launch.saves turns).map SaveAttempt.document) := by
  induction turns generalizing launch with
  | nil => rfl
  | cons turn turns ih =>
      have step := launch.storage_take turn
      show ((launch.take turn).1.after turns).service.live.storage = _
      rw [ih, step, saves, List.map_append]
      exact (Storage.afterSaves_append ..).symm

theorem take_bot_of_running (runs : launch.stage = .running restored) :
    launch.take .bot = launch.attendNext := by
  simp only [take, work, runs]

theorem take_bot_of_starting (starts : ∀ restored, launch.stage ≠ .running restored) :
    launch.take .bot = (launch.startUp, []) := by
  unfold take work
  cases stage : launch.stage with
  | running restored => exact absurd stage (starts restored)
  | _ => rfl

theorem takeAll_idle (runs : launch.stage = .running restored) (idle : launch.waiting = [])
    (count : Nat) : launch.takeAll (.replicate count .bot) = (launch, []) := by
  induction count with
  | zero => rfl
  | succ count ih =>
      have stays : launch.take .bot = (launch, []) := by
        rw [take_bot_of_running runs, attendNext, idle]
      simp only [List.replicate_succ, takeAll, stays, ih, List.append_nil]

/-- Lines that come in one by one are answered as a session answers them. -/
theorem takeAll_inTurn (runs : launch.stage = .running restored) (idle : launch.waiting = [])
    (lines : List (Moment × String)) : launch.takeAll (inTurn lines) =
      ({ launch with session := (launch.session.answerAll lines).1 },
        (launch.session.answerAll lines).2) := by
  induction lines generalizing launch with
  | nil => rfl
  | cons first lines ih =>
      obtain ⟨moment, line⟩ := first
      have answered : launch.takeAll [.line moment line, .bot] =
          ({ launch with session := (launch.session.answer moment line).1 },
            (launch.session.answer moment line).2) := by
        cases kind : Line.ofText line with
        | message text =>
            simp only [takeAll, take, read, work, kind, runs, attendNext, idle, Session.answer,
              Session.chat, List.nil_append, List.append_nil]
        | _ =>
            simp only [takeAll, take, read, work, kind, runs, attendNext, idle, List.append_nil]
      show launch.takeAll ([.line moment line, .bot] ++ inTurn lines) = _
      rw [takeAll_append, answered]
      rw [@ih { launch with session := (launch.session.answer moment line).1 } runs idle]
      rfl

end Launch

end AutoReply.Console
