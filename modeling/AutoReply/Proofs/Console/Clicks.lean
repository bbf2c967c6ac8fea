import AutoReply.Proofs.Console.Lines
import AutoReply.Proofs.Console.Mentions
import AutoReply.Proofs.Storage.StateFile

/-!
Clicks in a session with a state file. Every click counts for the number that its name stands for,
is answered with the count, and is found in the file by the next start.
-/

namespace AutoReply

open AutoReply.Chat AutoReply.Control AutoReply.Rule AutoReply.Storage AutoReply.Text

def Storage.clicks? (storage : Storage) : Option ClickBoard :=
  match storage.load.1 with
  | .ok found => some (found.elim .empty SavedState.board)
  | .error _ => none

theorem Storage.load_of_saved {storage : Storage} {path : String} {document : SavedState}
    (file : storage.store = .file path) (succeeded : (storage.save document).2.1 = none) :
    (storage.save document).1.store = .file path ∧
      (storage.save document).1.load.1 = .ok (some document) := by
  obtain ⟨files, store⟩ := storage
  cases file
  cases saved : saveFile files path document with
  | mk after rest =>
      obtain ⟨failure, journal⟩ := rest
      simp only [save, saved] at succeeded ⊢
      subst succeeded
      have loaded := loadFile_of_read (read_of_saveFile saved) document.ofJsonText_fileText
      exact ⟨trivial, by simp only [load, loaded]⟩

theorem performAll_append (earlier later : List Operation) (service : Service) :
    performAll (earlier ++ later) service =
      performAll earlier service ++ performAll later (reached earlier service) := by
  induction earlier generalizing service with
  | nil => rfl
  | cons operation operations ih =>
      rw [List.cons_append, performAll, performAll, ih]
      rfl

/-- Changes are saved to a file, which holds the clicks. -/
structure Stored (path : String) (service : Service) : Prop where
  file : service.live.storage.store = .file path
  saves : service.live.savesChanges = true
  clicks : service.live.storage.clicks? = some service.live.clicks

theorem Stored.perform {path : String} {service : Service} (stored : Stored path service)
    {operation : Operation} (succeeds : ∀ attempt,
      (operation.perform service).attempt? = some attempt → attempt.failure = none) :
    Stored path (operation.perform service).later := by
  have saves := (operation.savesChanges_perform service).trans stored.saves
  cases tried : (operation.perform service).attempt? with
  | none =>
      have same := Operation.storage_perform_of_untried tried
      have captured := (Operation.idle_of_untried stored.saves tried).capture
      rw [Operation.earlier_perform] at captured
      have clicks : (operation.perform service).later.live.clicks = service.live.clicks :=
        congrArg SavedState.board captured
      exact ⟨by rw [same, stored.file], saves, by rw [same, clicks, stored.clicks]⟩
  | some attempt =>
      have saved := Operation.saved_of_tried tried
      have storage := saved.storage
      have failure := saved.failure
      rw [Operation.earlier_perform] at storage failure
      obtain ⟨file, loaded⟩ := Storage.load_of_saved stored.file
        (failure.symm.trans (succeeds attempt tried))
      refine ⟨by rw [storage, file], saves, ?_⟩
      rw [storage]
      unfold Storage.clicks?
      rw [loaded, saved.document]
      rfl

theorem Service.clicks_begin {service : Service} {board : ClickBoard}
    (restores : service.settings.state.restoreOnStart = true)
    (fresh : service.live.clicks = .empty) (stored : service.live.storage.clicks? = some board) :
    service.begin.1.live.clicks = board ∧
      service.begin.1.live.storage = service.live.storage ∧
      service.begin.1.live.savesChanges = service.live.savesChanges := by
  have begun : service.begin.1 = service.restore.2.1 := by
    unfold begin
    rw [if_pos restores]
  rw [begun]
  unfold Storage.clicks? at stored
  cases loaded : service.live.storage.load.1 with
  | error error =>
      rw [loaded] at stored
      contradiction
  | ok found =>
      rw [loaded] at stored
      obtain rfl := Option.some.inj stored
      cases found with
      | none =>
          rw [(restore_of_unloaded (by simp [loaded])).2]
          exact ⟨fresh, rfl, rfl⟩
      | some saved =>
          obtain ⟨_, live⟩ := restore_of_loaded loaded
          rw [live]
          exact ⟨rfl, rfl, rfl⟩

namespace Console

def clickedName? (line : String) : Option String :=
  match Line.ofText line with
  | .command .click => (mentionedNames line).head?
  | _ => none

def guestsIn (bot : Bot) (line : String) : List String :=
  match Line.ofText line with
  | .command _ => guests bot (mentionedNames line)
  | .message _ => guests bot (mentionedNames line)
  | _ => []

theorem guests_clickedName {line name : String} (clicked : clickedName? line = some name)
    (bot : Bot) : guests bot [name] ⊆ guestsIn bot line := by
  unfold clickedName? at clicked
  unfold guestsIn
  split at clicked
  next read =>
    obtain ⟨names, written⟩ := List.head?_eq_some_iff.mp clicked
    simp only [read, written]
    show guests bot [name] ⊆ guests bot ([name] ++ names)
    rw [guests_append]
    exact List.subset_append_left _ _
  next => contradiction

namespace Session

variable (session : Session) (moment : Moment) (line : String)

theorem clicked?_operation? : (session.operation? moment line).bind Operation.clicked? =
    (session.clicked? line).map Mention.id := by
  unfold operation?
  cases read : Line.ofText line with
  | blank => simp [clicked?, read]
  | message text => simp [clicked?, read, messageOperation, Operation.clicked?]
  | command command =>
      cases session.clicked? line <;> rfl
  | admin command =>
      have none : session.clicked? line = none := by simp [clicked?, read]
      rw [none]
      simp only [adminOperation?]
      cases session.service.live.authorize session.user with
      | error error => rfl
      | ok _ => cases command <;> rfl

theorem clicks_answer : (session.answer moment line).1.service.live.clicks =
    (session.clicked? line).elim session.service.live.clicks fun mention =>
      session.service.live.clicks.click mention.id := by
  have same := session.clicked?_operation? moment line
  rw [service_answer]
  cases asked : session.operation? moment line with
  | none =>
      rw [asked, Option.bind_none] at same
      rw [Option.map_eq_none_iff.mp same.symm]
      rfl
  | some operation =>
      rw [asked, Option.bind_some] at same
      rw [serviceAfter, Option.elim_some, operation.clicks_perform, same]
      cases session.clicked? line <;> rfl

theorem saves_cons (lines : List (Moment × String)) :
    session.saves ((moment, line) :: lines) =
      ((session.operation? moment line).bind fun operation =>
        (operation.perform session.service).attempt?).toList ++
      (session.answer moment line).1.saves lines := by
  unfold saves
  rw [operations, performAll_append, List.filterMap_append, service_answer]
  cases session.operation? moment line with
  | none => rfl
  | some operation =>
      simp only [Option.toList_some, performAll, reached, Option.bind_some, List.filterMap_cons,
        List.filterMap_nil]
      cases (operation.perform session.service).attempt? <;> rfl

theorem bot_answer : (session.answer moment line).1.bot = session.bot := by
  unfold bot
  rw [service_answer]
  cases session.operation? moment line with
  | none => rfl
  | some operation => rw [serviceAfter, Option.elim_some, operation.settings_perform]

variable {session moment line} {seen : List String}

theorem knows_answer (knows : Knows session.known seen) :
    Knows (session.answer moment line).1.known (seen ++ guestsIn session.bot line) := by
  rw [known_answer]
  unfold knownAfter guestsIn
  cases Line.ofText line with
  | blank => simpa using knows
  | admin command => simpa using knows
  | command command => exact (knows.identifyAll session.bot _).2
  | message text => exact (knows.identifyAll session.bot _).2

theorem clicked?_of_knows (knows : Knows session.known seen) :
    session.clicked? line = (clickedName? line).map fun name =>
      { id := numberOf session.bot (seen ++ guestsIn session.bot line) name, name } := by
  unfold clicked? clickedName? guestsIn mentioned mentionsIn
  rw [(knows.identifyAll session.bot _).1]
  cases Line.ofText line with
  | command command =>
      cases command with
      | click => simp only [mentionsOf, List.head?_map]
      | _ => rfl
  | _ => rfl

/-- A click that is saved is answered with the count. -/
theorem answer_click {mention : Mention} (clicked : session.clicked? line = some mention)
    (saves : session.service.live.savesChanges = true)
    (succeeds : ∀ operation, session.operation? moment line = some operation → ∀ attempt,
      (operation.perform session.service).attempt? = some attempt → attempt.failure = none) :
    (session.answer moment line).2 = [.rich (.untitled (clickText session.arguments.name
      mention.name ((session.service.live.clicks.click mention.id).count mention.id)))] := by
  have read : Line.ofText line = .command .click := by
    unfold clicked? at clicked
    split at clicked
    next read => exact read
    next => contradiction
  obtain ⟨others, mentioned⟩ : ∃ others, session.mentioned line = mention :: others := by
    simp only [clicked?, read] at clicked
    exact List.head?_eq_some_iff.mp clicked
  have asked : session.operation? moment line =
      some (.command (.click session.arguments.name mention.id mention.name)) := by
    simp only [operation?, read, clicked, Option.map_some, clickOperation]
  have saved := succeeds _ asked
  have replied : (session.answer moment line).2 = [((session.click (mention :: others)).2)] := by
    simp only [answer, read]
    show [(Session.click { session with known := _ } (session.mentioned line)).2] = _
    rw [mentioned]
    rfl
  rw [replied]
  simp only [Session.click, Live.click, Live.answer_answerSaved]
  generalize counted : { session.service.live with
    clicks := session.service.live.clicks.click mention.id } = changed
  have savesStill : changed.savesChanges = true := by rw [← counted, saves]
  have failure : changed.saveChange.2.1 = none := by
    rw [(Live.saveChange_of_saves savesStill).2, ← counted]
    refine saved ⟨changed.capture, _⟩ ?_
    show Control.Command.attempt? session.service.live _ = _
    rw [Control.Command.attempt?, if_pos saves, ← counted]
    rfl
  rw [failure]
  rfl

end Session

end Console

end AutoReply
