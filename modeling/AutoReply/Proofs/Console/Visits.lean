import AutoReply.Proofs.Console.Clicks

/-!
Sessions that follow one another on one state file. Clicks are stored by number, but every session
gives out its numbers anew: names share a count when they hold the same place in their sessions.
-/

namespace AutoReply.Console

open AutoReply.Chat AutoReply.Control AutoReply.Rule AutoReply.Storage AutoReply.Text

def guestsOf (bot : Bot) (lines : List (Moment × String)) : List String :=
  lines.flatMap fun line => guestsIn bot line.2

def clickedNames (lines : List (Moment × String)) : List String :=
  lines.filterMap fun line => clickedName? line.2

theorem guestsOf_cons (bot : Bot) (moment : Moment) (line : String)
    (lines : List (Moment × String)) :
    guestsOf bot ((moment, line) :: lines) = guestsIn bot line ++ guestsOf bot lines :=
  List.flatMap_cons

theorem guestsOf_append (bot : Bot) (lines more : List (Moment × String)) :
    guestsOf bot (lines ++ more) = guestsOf bot lines ++ guestsOf bot more :=
  List.flatMap_append

theorem clickedNames_cons (moment : Moment) (line : String) (lines : List (Moment × String)) :
    clickedNames ((moment, line) :: lines) = (clickedName? line).toList ++ clickedNames lines := by
  unfold clickedNames
  rw [List.filterMap_cons]
  cases clickedName? line <;> rfl

theorem numberOf_clickedName {line name : String} (click : clickedName? line = some name)
    (bot : Bot) (seen later : List String) :
    numberOf bot (seen ++ guestsIn bot line ++ later) name =
      numberOf bot (seen ++ guestsIn bot line) name := by
  refine numberOf_append (fun guest inside => ?_) later
  exact List.mem_append_right _ (guests_clickedName click bot inside)

/-- A session on a state file that has seen these guests, with all clicks that count in it, the
earlier sessions' too. -/
structure Ongoing (path : String) (session : Session) (seen : List String) (clicked : List UserId) :
    Prop where
  stored : Stored path session.service
  knows : Knows session.known seen
  counts : session.service.live.clicks.Counts clicked

namespace Session

variable {session : Session} {moment : Moment} {line : String} {lines more : List (Moment × String)}

theorem succeed_cons
    (succeed : ∀ attempt ∈ session.saves ((moment, line) :: lines), attempt.failure = none) :
    (∀ operation, session.operation? moment line = some operation → ∀ attempt,
      (operation.perform session.service).attempt? = some attempt → attempt.failure = none) ∧
    ∀ attempt ∈ (session.answer moment line).1.saves lines, attempt.failure = none := by
  rw [saves_cons, List.forall_mem_append] at succeed
  refine ⟨fun operation asked attempt tried => succeed.1 attempt ?_, succeed.2⟩
  simp [asked, tried]

theorem saves_append (session : Session) (lines more : List (Moment × String)) :
    session.saves (lines ++ more) =
      session.saves lines ++ (session.answerAll lines).1.saves more := by
  induction lines generalizing session with
  | nil => rfl
  | cons first lines ih =>
      obtain ⟨moment, line⟩ := first
      rw [List.cons_append, saves_cons, saves_cons, ih, List.append_assoc]
      rfl

theorem bot_answerAll (session : Session) (lines : List (Moment × String)) :
    (session.answerAll lines).1.bot = session.bot := by
  induction lines generalizing session with
  | nil => rfl
  | cons first lines ih => exact (ih _).trans (session.bot_answer first.1 first.2)

end Session

namespace Ongoing

variable {path : String} {session : Session} {seen : List String} {clicked : List UserId}

theorem answer (ongoing : Ongoing path session seen clicked) {moment : Moment} {line : String}
    (succeeds : ∀ operation, session.operation? moment line = some operation → ∀ attempt,
      (operation.perform session.service).attempt? = some attempt → attempt.failure = none) :
    Ongoing path (session.answer moment line).1 (seen ++ guestsIn session.bot line)
      (clicked ++ (clickedName? line).toList.map
        (numberOf session.bot (seen ++ guestsIn session.bot line))) := by
  constructor
  case stored =>
    rw [Session.service_answer]
    cases asked : session.operation? moment line with
    | none => exact ongoing.stored
    | some operation => exact ongoing.stored.perform (succeeds operation asked)
  case knows => exact Session.knows_answer ongoing.knows
  case counts =>
    rw [Session.clicks_answer, Session.clicked?_of_knows ongoing.knows]
    cases clickedName? line with
    | none => simpa using ongoing.counts
    | some name => exact ongoing.counts.click _

theorem answerAll (ongoing : Ongoing path session seen clicked) {lines : List (Moment × String)}
    (succeed : ∀ attempt ∈ session.saves lines, attempt.failure = none) (later : List String) :
    Ongoing path (session.answerAll lines).1 (seen ++ guestsOf session.bot lines)
      (clicked ++ (clickedNames lines).map
        (numberOf session.bot (seen ++ (guestsOf session.bot lines ++ later)))) := by
  induction lines generalizing session seen clicked with
  | nil => simpa [guestsOf, clickedNames, Session.answerAll] using ongoing
  | cons first lines ih =>
      obtain ⟨moment, line⟩ := first
      obtain ⟨succeedsFirst, succeedRest⟩ := Session.succeed_cons succeed
      have rest := ih (ongoing.answer succeedsFirst) succeedRest
      rw [session.bot_answer] at rest
      have kept : (clickedName? line).toList.map (numberOf session.bot
            (seen ++ guestsIn session.bot line ++ (guestsOf session.bot lines ++ later))) =
          (clickedName? line).toList.map
            (numberOf session.bot (seen ++ guestsIn session.bot line)) :=
        List.map_congr_left fun name member =>
          numberOf_clickedName (Option.mem_toList.mp member) session.bot seen _
      rw [guestsOf_cons, clickedNames_cons, List.map_append, ← List.append_assoc clicked,
        ← List.append_assoc seen, List.append_assoc (guestsIn session.bot line),
        ← List.append_assoc seen, kept]
      exact rest

end Ongoing

structure Visit where
  session : Session
  lines : List (Moment × String)

namespace Visit

variable (visit : Visit)

def last : Session :=
  (visit.session.answerAll visit.lines).1

def numberOf (name : String) : UserId :=
  Console.numberOf visit.session.bot (guestsOf visit.session.bot visit.lines) name

def clickedIn (lines : List (Moment × String)) : List UserId :=
  (clickedNames lines).map visit.numberOf

structure Keeps (path : String) : Prop where
  path : visit.session.service.settings.state.path = path
  restores : visit.session.service.settings.state.restoreOnStart = true
  saves : visit.session.service.settings.state.saveOnChange = true
  succeed : ∀ attempt ∈ visit.session.saves visit.lines, attempt.failure = none

end Visit

/-- Sessions in turn: each starts with the files that the one before it has left. -/
inductive InTurn : Files → List Visit → Prop
  | nil (files : Files) : InTurn files []
  | cons {arguments : Arguments} {surroundings : Settings.Surroundings} {visit : Visit}
      {later : List Visit} :
      Session.start arguments surroundings = .ok visit.session →
      InTurn visit.last.service.live.storage.files later →
      InTurn surroundings.files (visit :: later)

section

variable {path : String} {visit : Visit} {board : ClickBoard} {clicked : List UserId}

theorem ongoing_of_start {arguments : Arguments} {surroundings : Settings.Surroundings}
    (started : Session.start arguments surroundings = .ok visit.session) (keeps : visit.Keeps path)
    (stored : Storage.clicks? ⟨surroundings.files, .file path⟩ = some board)
    (counts : board.Counts clicked) : Ongoing path visit.session [] clicked := by
  obtain ⟨settings, registry, _, _, same⟩ := Session.start_eq_ok started
  obtain ⟨tuned, clicks, begins⟩ := Service.begin_eq
    (.fresh settings registry ⟨surroundings.files, .file settings.state.path⟩)
  have sameSettings : visit.session.service.settings = settings := by
    rw [same, begins]
    rfl
  obtain ⟨samePath, restores, saves, _⟩ := keeps
  rw [sameSettings] at samePath restores saves
  rw [← samePath] at stored
  have begun := @Service.clicks_begin
    (.fresh settings registry ⟨surroundings.files, .file settings.state.path⟩) board restores rfl
    stored
  rw [same]
  refine ⟨⟨?_, ?_, ?_⟩, knows_empty, ?_⟩
  · rw [begun.2.1, ← samePath]
    rfl
  · rw [begun.2.2]
    exact saves
  · rw [begun.1, begun.2.1]
    exact stored
  · rw [begun.1]
    exact counts

theorem ongoing_last (ongoing : Ongoing path visit.session [] clicked) (keeps : visit.Keeps path) :
    Stored path visit.last.service ∧
      visit.last.service.live.clicks.Counts (clicked ++ visit.clickedIn visit.lines) := by
  have last := ongoing.answerAll keeps.succeed []
  rw [List.append_nil] at last
  exact ⟨last.stored, last.counts⟩

theorem InTurn.ongoing {files : Files} {earlier later : List Visit}
    (inTurn : InTurn files (earlier ++ visit :: later))
    (keeps : ∀ other ∈ earlier ++ visit :: later, other.Keeps path)
    (stored : Storage.clicks? ⟨files, .file path⟩ = some board) (counts : board.Counts clicked) :
    Ongoing path visit.session []
      (clicked ++ earlier.flatMap fun other => other.clickedIn other.lines) := by
  induction earlier generalizing files board clicked with
  | nil =>
      cases inTurn with
      | cons started rest =>
          simpa using ongoing_of_start started (keeps visit List.mem_cons_self) stored counts
  | cons first earlier ih =>
      cases inTurn with
      | cons started rest =>
          obtain ⟨keepsFirst, keepsRest⟩ := List.forall_mem_cons.mp keeps
          have start := ongoing_of_start started keepsFirst stored counts
          obtain ⟨storedLast, countsLast⟩ := ongoing_last start keepsFirst
          have storage : first.last.service.live.storage =
              ⟨first.last.service.live.storage.files, .file path⟩ := by
            rw [← storedLast.file]
          rw [List.flatMap_cons, ← List.append_assoc]
          exact ih rest keepsRest (storage ▸ storedLast.clicks) countsLast

theorem reply_of_click (ongoing : Ongoing path visit.session [] clicked) (keeps : visit.Keeps path)
    {before after : List (Moment × String)} {moment : Moment} {line name : String}
    (split : visit.lines = before ++ (moment, line) :: after)
    (click : clickedName? line = some name) :
    ((visit.session.answerAll before).1.answer moment line).2 =
      [.rich (.untitled (clickText visit.session.arguments.name name (UInt64.ofNat
        ((clicked ++ visit.clickedIn before).count (visit.numberOf name) + 1))))] := by
  have succeed := keeps.succeed
  rw [split, Session.saves_append, List.forall_mem_append] at succeed
  have now := ongoing.answerAll succeed.1 (guestsOf visit.session.bot ((moment, line) :: after))
  rw [← guestsOf_append, ← split, List.nil_append, List.nil_append] at now
  have number : Console.numberOf visit.session.bot
      (guestsOf visit.session.bot before ++ guestsIn visit.session.bot line) name =
        visit.numberOf name := by
    rw [Visit.numberOf, split, guestsOf_append, guestsOf_cons, ← List.append_assoc,
      numberOf_clickedName click]
  have known := @Session.clicked?_of_knows _ line _ now.knows
  rw [click, Session.bot_answerAll, Option.map_some, number] at known
  rw [Session.answer_click known now.stored.saves (Session.succeed_cons succeed.2).1,
    Session.arguments_answerAll, ClickBoard.count_click, if_pos rfl, now.counts, UInt64.ofNat_add]
  rfl

end

theorem clicks?_of_absent {files : Files} {path : String}
    (absent : files.read (files.resolve path) = .error .notFound) :
    Storage.clicks? ⟨files, .file path⟩ = some .empty := by
  simp [Storage.clicks?, Storage.load, loadFile, absent]

/-- With the state file missing at first, a click is answered with the number of clicks so far, in
this session and all before it, on names that stood for the same number in their sessions. -/
theorem clicks_counted_by_number {path : String} {files : Files} {earlier later : List Visit}
    {visit : Visit} {before after : List (Moment × String)} {moment : Moment} {line name : String}
    (absent : files.read (files.resolve path) = .error .notFound)
    (inTurn : InTurn files (earlier ++ visit :: later))
    (keeps : ∀ other ∈ earlier ++ visit :: later, other.Keeps path)
    (split : visit.lines = before ++ (moment, line) :: after)
    (click : clickedName? line = some name) :
    let clicked := (earlier.flatMap fun other => other.clickedIn other.lines) ++
      visit.clickedIn before
    ((visit.session.answerAll before).1.answer moment line).2 =
      [.rich (.untitled (clickText visit.session.arguments.name name
        (UInt64.ofNat (clicked.count (visit.numberOf name) + 1))))] := by
  exact reply_of_click (inTurn.ongoing keeps (clicks?_of_absent absent) ClickBoard.counts_empty)
    (keeps visit (List.mem_append_right _ List.mem_cons_self)) split click

/-! Two sessions in a folder that is empty at first: in the one mayuri is clicked on, in the other
kurisu. -/

def statePath : String := "data/state.json"

def stateFolder : Option (List Symbol) → Files
  | none => ⟨["home"], [(["home"], .folder)]⟩
  | some content =>
      ⟨["home"], [(["home", "data", "state.json"], .file content), (["home", "data"], .folder),
        (["home"], .folder)]⟩

def homeOf (files : Files) : Settings.Surroundings :=
  .ofEnvironment files (.ofList [("HOME", "/home")])

def visitTo (files : Files) (line : String) : Option Visit :=
  (Session.start {} (homeOf files)).toOption.map fun session =>
    { session
      lines := [({ time := ⟨0, 0⟩, day := .ofDays 0, luck := .ofSeed 0, waited := (0, 0) }, line)] }

def mayuriVisit : Option Visit := visitTo (stateFolder none) "/click @mayuri"

def mayuriFiles : Files :=
  (mayuriVisit.map fun visit => visit.last.service.live.storage.files).getD ⟨[], []⟩

theorem saveFile_stateFolder (content : Option (List Symbol)) (saved : SavedState) :
    ∃ journal, saveFile (stateFolder content) statePath saved =
      (stateFolder (some (symbols saved.fileText)), none, journal) := by
  cases content <;> exact ⟨_, rfl⟩

theorem afterSaves_stateFolder (content : Option (List Symbol)) (documents : List SavedState) :
    ∃ later, Storage.afterSaves ⟨stateFolder content, .file statePath⟩ documents =
      ⟨stateFolder later, .file statePath⟩ := by
  induction documents generalizing content with
  | nil => exact ⟨content, rfl⟩
  | cons document documents ih =>
      obtain ⟨journal, saved⟩ := saveFile_stateFolder content document
      obtain ⟨later, same⟩ := ih (some (symbols document.fileText))
      refine ⟨later, ?_⟩
      rw [← same]
      simp only [Storage.afterSaves, List.foldl_cons, Storage.save, saved]

theorem succeed_in_stateFolder {session : Session} {content : Option (List Symbol)}
    (storage : session.service.live.storage = ⟨stateFolder content, .file statePath⟩)
    (lines : List (Moment × String)) :
    (∀ attempt ∈ session.saves lines, attempt.failure = none) ∧
      ∃ later, (session.answerAll lines).1.service.live.storage.files = stateFolder later := by
  constructor
  · intro attempt member
    obtain ⟨performed, inRun, tried⟩ := List.mem_filterMap.mp member
    obtain ⟨earlier, operation, rfl⟩ := mem_performAll inRun
    obtain ⟨later, same⟩ := afterSaves_stateFolder content
      (((performAll earlier session.service).filterMap Performed.attempt?).map
        SaveAttempt.document)
    obtain ⟨journal, saved⟩ := saveFile_stateFolder later attempt.document
    rw [(Operation.saved_of_tried tried).failure, Operation.earlier_perform, storage_reached,
      storage, same]
    simp only [Storage.save, saved]
  · obtain ⟨later, same⟩ := afterSaves_stateFolder content
      ((session.saves lines).map SaveAttempt.document)
    refine ⟨later, ?_⟩
    rw [Session.service_answerAll, storage_reached, storage]
    exact congrArg Storage.files same

def Visit.OnlyGuests (visit : Visit) : Prop :=
  ∀ line ∈ visit.lines, ∀ name ∈ mentionedNames line.2,
    equalIgnoringAsciiCase name visit.session.bot.name = false

structure ClicksOn (files : Files) (line name : String) (visit : Visit) : Prop where
  started : Session.start {} (homeOf files) = .ok visit.session
  lines : ∃ moment, visit.lines = [(moment, line)]
  keeps : visit.Keeps statePath
  userName : visit.session.arguments.name = "okabe"
  leaves : ∃ later, visit.last.service.live.storage.files = stateFolder later
  onlyGuests : visit.OnlyGuests
  names : clickedNames visit.lines = [name]
  number : visit.numberOf name = guestId 0

def IsClick (line name : String) : Prop :=
  Line.ofText line = .command .click ∧ mentionedNames line = [name] ∧
    equalIgnoringAsciiCase name "Amadeus" = false

instance (line name : String) : Decidable (IsClick line name) := instDecidableAnd

theorem clickedName_of_isClick {line name : String} (click : IsClick line name) :
    clickedName? line = some name := by
  simp [clickedName?, click.1, click.2.1]

theorem clicksOn_of_visitTo {content : Option (List Symbol)} {files : Files} {line name : String}
    {visit : Visit} (folder : files = stateFolder content)
    (loads : ((({} : Arguments).sources.load (homeOf files)).toOption.map fun settings =>
      (settings.state.path, settings.state.restoreOnStart, settings.state.saveOnChange,
        settings.bot.name)) = some (statePath, true, true, "Amadeus"))
    (click : IsClick line name) (made : visitTo files line = some visit) :
    ClicksOn files line name visit := by
  unfold visitTo at made
  cases started : Session.start {} (homeOf files) with
  | error error => simp [started, Except.toOption] at made
  | ok session =>
      simp only [started, Except.toOption, Option.map_some, Option.some.injEq] at made
      subst made
      obtain ⟨settings, registry, loaded, _, same⟩ := Session.start_eq_ok started
      obtain ⟨tuned, clicks, begins⟩ := Service.begin_eq
        (.fresh settings registry ⟨(homeOf files).files, .file settings.state.path⟩)
      rw [begins] at same
      simp only [loaded, Except.toOption, Option.map_some, Option.some.injEq, Prod.mk.injEq]
        at loads
      obtain ⟨path, restores, saves, botName⟩ := loads
      have sameSettings : session.service.settings = settings := by
        rw [same]
        rfl
      have storage : session.service.live.storage = ⟨stateFolder content, .file statePath⟩ := by
        rw [same, ← folder, ← path]
        rfl
      have guest : equalIgnoringAsciiCase name session.bot.name = false := by
        simp only [Session.bot, sameSettings, botName, click.2.2]
      obtain ⟨succeed, leaves⟩ := succeed_in_stateFolder storage _
      refine ⟨started, ⟨_, rfl⟩, ⟨?_, ?_, ?_, succeed⟩, ?_, leaves, ?_, ?_, ?_⟩
      · rw [sameSettings, path]
      · rw [sameSettings, restores]
      · rw [sameSettings, saves]
      · rw [same]
      · simp [Visit.OnlyGuests, click.2.1, guest]
      · simp [clickedNames, clickedName_of_isClick click]
      · simp [Visit.numberOf, numberOf, guest, guestsOf, guestsIn, click.1, click.2.1,
          guests_of_guest guest, place, List.eraseDups_cons]

theorem isClick_mayuri : IsClick "/click @mayuri" "mayuri" := by
  decide +kernel

theorem isClick_kurisu : IsClick "/click @kurisu" "kurisu" := by
  decide +kernel

structure MayuriThenKurisu (first second : Visit) : Prop where
  mayuri : ClicksOn (stateFolder none) "/click @mayuri" "mayuri" first
  kurisu : ClicksOn first.last.service.live.storage.files "/click @kurisu" "kurisu" second

theorem exists_mayuriThenKurisu : ∃ first second, MayuriThenKurisu first second := by
  have loads : ∀ files ∈ [stateFolder none, mayuriFiles],
      ((({} : Arguments).sources.load (homeOf files)).toOption.map fun settings =>
        (settings.state.path, settings.state.restoreOnStart, settings.state.saveOnChange,
          settings.bot.name)) = some (statePath, true, true, "Amadeus") := by
    decide +kernel
  have starts : mayuriVisit.isSome = true ∧
      (visitTo mayuriFiles "/click @kurisu").isSome = true := by
    decide +kernel
  obtain ⟨first, madeFirst⟩ := Option.isSome_iff_exists.mp starts.1
  obtain ⟨second, madeSecond⟩ := Option.isSome_iff_exists.mp starts.2
  have clicksFirst :=
    clicksOn_of_visitTo rfl (loads _ List.mem_cons_self) isClick_mayuri madeFirst
  have files : mayuriFiles = first.last.service.live.storage.files := by
    rw [mayuriFiles, madeFirst]
    rfl
  obtain ⟨later, left⟩ := clicksFirst.leaves
  refine ⟨first, second, clicksFirst, ?_⟩
  rw [← files] at left ⊢
  exact clicksOn_of_visitTo left (loads _ (by simp)) isClick_kurisu madeSecond

theorem absent_in_stateFolder :
    (stateFolder none).read ((stateFolder none).resolve statePath) = .error .notFound := by
  decide

namespace MayuriThenKurisu

variable {first second : Visit} (visits : MayuriThenKurisu first second)

include visits

theorem inTurn : InTurn (stateFolder none) [first, second] := by
  have rest : InTurn first.last.service.live.storage.files [second] :=
    @InTurn.cons {} (homeOf _) second [] visits.kurisu.started (.nil _)
  exact @InTurn.cons {} (homeOf (stateFolder none)) first [second] visits.mayuri.started rest

theorem keeps : ∀ visit ∈ [first, second], visit.Keeps statePath := by
  simpa using ⟨visits.mayuri.keeps, visits.kurisu.keeps⟩

-- Either name is the first of its session.
theorem count_kurisu : (([first].flatMap fun other => other.clickedIn other.lines) ++
    second.clickedIn []).count (second.numberOf "kurisu") = 1 := by
  have mayuri : first.clickedIn first.lines = [guestId 0] := by
    rw [Visit.clickedIn, visits.mayuri.names, List.map_singleton, visits.mayuri.number]
  have nobody : second.clickedIn [] = [] := rfl
  rw [List.flatMap_singleton, mayuri, nobody, visits.kurisu.number]
  decide

end MayuriThenKurisu

theorem kurisu_counted_with_mayuri : ∃ (first second : Visit) (moment : Moment),
    (stateFolder none).read ((stateFolder none).resolve statePath) = .error .notFound ∧
    InTurn (stateFolder none) [first, second] ∧
    (∀ visit ∈ [first, second], visit.Keeps statePath) ∧
    clickedNames first.lines = ["mayuri"] ∧ second.lines = [(moment, "/click @kurisu")] ∧
    (second.session.answer moment "/click @kurisu").2 =
      [.rich (.untitled (clickText "okabe" "kurisu" 2))] := by
  obtain ⟨first, second, visits⟩ := exists_mayuriThenKurisu
  obtain ⟨moment, lines⟩ := visits.kurisu.lines
  have reply := @clicks_counted_by_number statePath (stateFolder none) [first] [] second [] []
    moment _ _ absent_in_stateFolder visits.inTurn visits.keeps lines
    (clickedName_of_isClick isClick_kurisu)
  dsimp only at reply
  rw [visits.count_kurisu, visits.kurisu.userName] at reply
  exact ⟨first, second, moment, absent_in_stateFolder, visits.inTurn, visits.keeps,
    visits.mayuri.names, lines, reply⟩

/-- What one would expect of clicks: an answer with those on the same name so far. -/
def CountedByName : Prop :=
  ∀ (path : String) (files : Files) (earlier later : List Visit) (visit : Visit)
    (before after : List (Moment × String)) (moment : Moment) (line name : String),
    files.read (files.resolve path) = .error .notFound →
    InTurn files (earlier ++ visit :: later) →
    (∀ other ∈ earlier ++ visit :: later, other.Keeps path ∧ other.OnlyGuests) →
    visit.lines = before ++ (moment, line) :: after → clickedName? line = some name →
      let names := (earlier.flatMap fun other => clickedNames other.lines) ++ clickedNames before
      ((visit.session.answerAll before).1.answer moment line).2 =
        [.rich (.untitled (clickText visit.session.arguments.name name
          (UInt64.ofNat (names.countP (fun other => lower other = lower name) + 1))))]

theorem not_countedByName : ¬ CountedByName := by
  intro byName
  obtain ⟨first, second, visits⟩ := exists_mayuriThenKurisu
  obtain ⟨moment, lines⟩ := visits.kurisu.lines
  have click := clickedName_of_isClick isClick_kurisu
  have guests : ∀ visit ∈ [first, second], visit.OnlyGuests := by
    simpa using ⟨visits.mayuri.onlyGuests, visits.kurisu.onlyGuests⟩
  have expected := byName statePath (stateFolder none) [first] [] second [] [] moment _ _
    absent_in_stateFolder visits.inTurn
    (fun visit member => ⟨visits.keeps visit member, guests visit member⟩) lines click
  have inTurn : InTurn (stateFolder none) ([first] ++ second :: []) := visits.inTurn
  have split : second.lines = [] ++ (moment, "/click @kurisu") :: [] := lines
  have ongoing := inTurn.ongoing visits.keeps (clicks?_of_absent absent_in_stateFolder)
    ClickBoard.counts_empty
  have reply := reply_of_click ongoing visits.kurisu.keeps split click
  rw [List.nil_append, visits.count_kurisu, visits.kurisu.userName] at reply
  have never : (([first].flatMap fun other => clickedNames other.lines) ++ clickedNames []).countP
      (fun other => lower other = lower "kurisu") = 0 := by
    rw [List.flatMap_singleton, visits.mayuri.names]
    decide +kernel
  dsimp only at expected
  rw [never, visits.kurisu.userName, reply] at expected
  revert expected
  decide +kernel

end AutoReply.Console
