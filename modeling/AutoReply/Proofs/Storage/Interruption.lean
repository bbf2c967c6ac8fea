import AutoReply.Proofs.Storage.Routes
import AutoReply.Proofs.Storage.StateFile
import AutoReply.Proofs.Text.Lines

/-!
Saves that break off. Wherever a save stops, the state file holds what it held before or the whole
new state, because all but the last step happens beside it. The folders that a save makes may open
the way to a file that could not be reached before; its content is left alone as well.
-/

namespace AutoReply.Storage

open AutoReply.Text

theorem withExtension_ne {extension name : String} (dotted : '.' ∈ extension.toList) :
    withExtension extension name ≠ name := by
  have appended : name ++ "." ++ extension ≠ name := by
    intro same
    have length := congrArg (fun text => text.toList.length) same
    simp at length
  unfold withExtension
  split
  next stem old split =>
    obtain ⟨written, plain⟩ := splitLast_eq_some split
    split
    next => exact appended
    next =>
      intro same
      have chars := congrArg String.toList same
      rw [written] at chars
      simp only [String.toList_append, String.toList_ofList, List.append_assoc,
        List.append_cancel_left_eq] at chars
      exact plain ((List.cons.inj chars).2 ▸ dotted)
  next => exact appended

theorem withExtension_ne_up (name : String) : withExtension "json.tmp" name ≠ ".." := by
  have longer : ∀ before : List Char, before ++ ".json.tmp".toList ≠ "..".toList := by
    intro before same
    have length := congrArg List.length same
    simp at length
  have dotted : ∀ stem : String, stem ++ "." ++ "json.tmp" ≠ ".." := by
    intro stem same
    refine longer stem.toList ?_
    rw [← same]
    simp
  unfold withExtension
  split
  next => split <;> exact dotted _
  next => exact dotted _

/-! The route of the temporary file. -/

section

variable {route : Route} {name : String}

theorem names_of_fileName? (named : route.fileName? = some name) :
    route.names = route.parent.names ++ [name] ∧ name ≠ ".." := by
  obtain ⟨last, down⟩ := Option.filter_eq_some_iff.mp named
  obtain ⟨before, split⟩ := List.getLast?_eq_some_iff.mp last
  refine ⟨?_, of_decide_eq_true down⟩
  rw [Route.parent, split, List.dropLast_concat]

theorem walk_names (named : route.fileName? = some name) (files : Files) :
    files.walk route.start route.names =
      files.walk route.start route.parent.names ++ [name] := by
  obtain ⟨names, down⟩ := names_of_fileName? named
  rw [names, Files.walk_concat, Files.step_of_ne _ _ down]

theorem place_temporary (named : route.fileName? = some name) (files : Files) :
    files.place route.temporary =
      files.walk route.start route.parent.names ++ [withExtension "json.tmp" name] := by
  rw [Route.temporary, named]
  show files.walk route.start (route.names.dropLast ++ [withExtension "json.tmp" name]) = _
  rw [Files.walk_concat, Files.step_of_ne _ _ (withExtension_ne_up name)]
  rfl

theorem place_temporary_ne (named : route.fileName? = some name) (files : Files) :
    files.place route.temporary ≠ files.place route := by
  have different : withExtension "json.tmp" name ≠ name := withExtension_ne (by decide)
  rw [place_temporary named, Files.place, walk_names named]
  split
  next =>
    intro same
    have length := congrArg List.length same
    simp at length
  next =>
    intro same
    exact different (List.cons.inj (List.append_cancel_left same)).1

end

/-! Steps that break off. -/

/-- What a step can have done when it breaks off: some of the folders are made, or the file holds
anything. A file is renamed as a whole or not at all. -/
inductive Step.Leaves (files : Files) : Step → Files → Prop
  | makeFolders {route : Route} (count : Nat) :
      Leaves files (.makeFolders route) (files.makeFolders route.start route.names count).1
  | write {route : Route} {content : List Symbol} {left : Files} (part : List Symbol) :
      files.write (files.place route) part = .ok left → Leaves files (.write route content) left

/-- Files that steps can leave. They are done when all steps have run; they may stop at any point, a
step may fail for reasons of its own or from outside, and in the middle of what it does. -/
inductive Runs : Files → List Step → Files → Bool → Prop
  | finished (files : Files) : Runs files [] files true
  | stopped (files : Files) (steps : List Step) : Runs files steps files false
  | brokenOff {files left : Files} {step : Step} {steps : List Step} :
      step.Leaves files left → Runs files (step :: steps) left false
  | next {files between left : Files} {step : Step} {steps : List Step} {done : Bool} :
      step.run files = (between, none) → Runs between steps left done →
        Runs files (step :: steps) left done

theorem runs_of_failed {files left : Files} {step : Step} {error : FileError}
    (failed : step.run files = (left, some error)) (steps : List Step) :
    Runs files (step :: steps) left false := by
  have unchanged {answer : Except FileError Files}
      (left_eq : files.leave answer = (left, some error)) : left = files := by
    cases answer with
    | ok changed => cases left_eq
    | error other => exact (Prod.mk.inj left_eq).1.symm
  cases step with
  | makeFolders route =>
      have made : left = (files.makeFolders route.start route.names route.names.length).1 :=
        (congrArg Prod.fst failed).symm
      rw [made]
      exact .brokenOff (.makeFolders _)
  | write route content =>
      rw [unchanged failed]
      exact .stopped files _
  | rename source target =>
      rw [unchanged failed]
      exact .stopped files _

theorem runs_runSteps (files : Files) (steps : List Step) :
    Runs files steps (runSteps files steps).1 (runSteps files steps).2.isNone := by
  induction steps generalizing files with
  | nil => exact .finished files
  | cons step steps ih =>
      rw [runSteps]
      cases ran : step.run files with
      | mk left failure =>
          cases failure with
          | none => exact .next ran (ih left)
          | some error => exact runs_of_failed ran steps

theorem Step.workingFolder_leaves {files left : Files} {step : Step}
    (leaves : step.Leaves files left) : left.workingFolder = files.workingFolder := by
  cases leaves with
  | makeFolders count => exact files.workingFolder_makeFolders _ _ count
  | write part wrote =>
      rw [(Files.write_eq_ok wrote).2]
      rfl

theorem Runs.workingFolder {files left : Files} {steps : List Step} {done : Bool}
    (runs : Runs files steps left done) : left.workingFolder = files.workingFolder := by
  induction runs with
  | finished => rfl
  | stopped => rfl
  | brokenOff leaves => exact Step.workingFolder_leaves leaves
  | @next files _ _ step _ _ ran _ ih =>
      rw [ih, ← workingFolder_run files step, ran]

theorem Files.IsTree.leaves {files left : Files} (tree : files.IsTree) {step : Step}
    (leaves : step.Leaves files left) : left.IsTree := by
  cases leaves with
  | makeFolders count => exact (grown_makeFolders tree count).1.tree
  | write part wrote => exact tree.write wrote

theorem Files.IsTree.run {files after : Files} (tree : files.IsTree) {step : Step}
    (ran : step.run files = (after, none)) : after.IsTree := by
  cases step with
  | makeFolders route =>
      have grown := @grown_makeFolders files route.start route.names tree route.names.length
      rw [show files.makeFolders route.start route.names route.names.length = (after, none)
        from ran] at grown
      exact grown.1.tree
  | write route content => exact tree.write (leave_eq_none ran)
  | rename source target => exact tree.rename (leave_eq_none ran)

theorem Files.IsTree.runs {files left : Files} {steps : List Step} {done : Bool}
    (tree : files.IsTree) (runs : Runs files steps left done) : left.IsTree := by
  induction runs with
  | finished => exact tree
  | stopped => exact tree
  | brokenOff leaves => exact tree.leaves leaves
  | next ran _ ih => exact ih (tree.run ran)

/-! Saves that break off. -/

inductive Unfinished (files : Files) (route : Route) : Files → Prop
  | folders (count : Nat) :
      Unfinished files route (files.makeFolders route.start route.parent.names count).1
  | temporary {made left : Files} {count : Nat} (part : List Symbol) :
      made = (files.makeFolders route.start route.parent.names count).1 →
      made.write (made.place route.temporary) part = .ok left → Unfinished files route left

section

variable {files left : Files} {route : Route} {name : String} {saved : SavedState} {done : Bool}

theorem Runs.unfinished_or_saved (runs : Runs files (saveSteps route saved) left done) :
    (done = false ∧ Unfinished files route left) ∨
      runSteps files (saveSteps route saved) = (left, none) := by
  cases runs with
  | stopped => exact .inl ⟨rfl, .folders 0⟩
  | brokenOff leaves =>
      cases leaves with
      | makeFolders count => exact .inl ⟨rfl, .folders count⟩
  | @next _ made _ _ _ _ makes runs =>
      have madeAll : made = (files.makeFolders route.start route.parent.names
          route.parent.names.length).1 := (congrArg Prod.fst makes).symm
      cases runs with
      | stopped => exact .inl ⟨rfl, madeAll ▸ .folders _⟩
      | brokenOff leaves =>
          cases leaves with
          | write part wrote => exact .inl ⟨rfl, .temporary part madeAll wrote⟩
      | next writes runs =>
          cases runs with
          | stopped =>
              exact .inl ⟨rfl, .temporary _ madeAll (Files.leave_eq_none writes)⟩
          | brokenOff leaves => cases leaves
          | next renames runs =>
              refine .inr ?_
              simp only [saveSteps, runSteps, makes, writes, renames]
              cases runs <;> rfl

theorem Unfinished.read (tree : files.IsTree) (named : route.fileName? = some name)
    (unfinished : Unfinished files route left) {content : List Symbol}
    (read : left.read (left.place route) = .ok content) :
    files.read (left.place route) = .ok content := by
  cases unfinished with
  | folders count => exact (Files.grown_makeFolders tree count).1.read tree read
  | @temporary made _ count part isMade wrote =>
      have grown := (@Files.grown_makeFolders files route.start route.parent.names tree count).1
      rw [← isMade] at grown
      obtain ⟨free, rfl⟩ := Files.write_eq_ok wrote
      rw [Files.place_congr (Files.isFolder_put_file free part)] at read ⊢
      have file := (Files.look_eq_ok.mp (Files.read_eq_ok.mp read)).2
      rw [Files.contentAt_put_other made _ (place_temporary_ne named made).symm] at file
      refine grown.read tree (Files.read_eq_ok.mpr (Files.look_eq_ok.mpr ⟨?_, file⟩))
      exact grown.tree.folders_on_way (grown.tree.folder_above file)

theorem Unfinished.kept (tree : files.IsTree) (named : route.fileName? = some name)
    (solid : files.Solid route.start route.names) (unfinished : Unfinished files route left) :
    left.read (left.place route) = files.read (files.place route) := by
  have split := (names_of_fileName? named).1
  have before (count : Nat) :
      let made := (files.makeFolders route.start route.parent.names count).1
      made.walk route.start route.names = files.walk route.start route.names ∧
        made.look (files.walk route.start route.names) =
          files.look (files.walk route.start route.names) := by
    obtain ⟨grown, seen⟩ := @Files.grown_makeFolders files route.start route.parent.names tree count
    refine ⟨grown.walk solid, ?_⟩
    rw [split] at solid ⊢
    exact seen [name] (by simp) solid
  cases unfinished with
  | folders count => exact Files.read_place_congr (before count).1 (before count).2
  | @temporary made _ count part isMade wrote =>
      obtain ⟨way, seen⟩ := before count
      rw [← isMade] at way seen
      rw [← Files.read_place_congr way seen]
      obtain ⟨free, rfl⟩ := Files.write_eq_ok wrote
      have same := Files.walk_congr (Files.isFolder_put_file free part) route.start route.names
      refine Files.read_place_congr same ?_
      have different : withExtension "json.tmp" name ≠ name := withExtension_ne (by decide)
      rw [place_temporary named, walk_names named]
      refine Files.look_put_beside _ _ (by simp) fun beside => ?_
      exact different (List.cons.inj (List.append_cancel_left beside)).1

end

/-- Wherever a save breaks off, the path leads to a file with the content from before or with the
whole new one, and when the save is done to the new one. If no two dots of the path lead back over
something missing, what is read and loaded is what it was before or the new state. -/
theorem broken_save_keeps {files : Files} {path name : String} (tree : files.IsTree)
    (named : (Route.ofText files.workingFolder path).fileName? = some name) (saved : SavedState) :
    let route := Route.ofText files.workingFolder path
    let steps := saveSteps route saved
    let run := saveFile files path saved
    (∀ other : Files, other.place route.temporary ≠ other.place route) ∧
      Runs files steps run.1 run.2.1.isNone ∧
      ∀ left done, Runs files steps left done →
        left.IsTree ∧
          ((done = false ∧
              (∀ content, left.read (left.resolve path) = .ok content →
                files.read (left.resolve path) = .ok content) ∧
              (files.Solid route.start route.names →
                left.read (left.resolve path) = files.read (files.resolve path) ∧
                  loadFile left path = loadFile files path)) ∨
            (left.read (left.resolve path) = .ok (symbols saved.fileText) ∧
              loadFile left path = (.ok (some saved), []))) := by
  intro route steps run
  refine ⟨place_temporary_ne named, ?_, fun left done runs => ⟨tree.runs runs, ?_⟩⟩
  · have reached := runs_runSteps files steps
    simp only [run, saveFile]
    split
    next ran =>
      rw [ran] at reached
      exact reached
    next ran =>
      rw [ran] at reached
      exact reached
  · have place : left.resolve path = left.place route := by
      rw [Files.resolve, runs.workingFolder]
    rcases runs.unfinished_or_saved with ⟨notDone, unfinished⟩ | ran
    · refine .inl ⟨notDone, fun content read => ?_, fun solid => ?_⟩
      · rw [place] at read ⊢
        exact unfinished.read tree named read
      · have same : left.read (left.resolve path) = files.read (files.resolve path) := by
          rw [place]
          exact unfinished.kept tree named solid
        refine ⟨same, ?_⟩
        unfold loadFile
        rw [same]
    · have read : left.read (left.resolve path) = .ok (symbols saved.fileText) := by
        rw [place]
        exact read_of_saved ran
      exact .inr ⟨read, loadFile_of_read read saved.ofJsonText_fileText⟩

def tidyFolder : Files :=
  emptyFolder.put ["home", ".json.tmp"] (.file (symbols "\x7b\x7d"))

def litteredFolder : Files :=
  tidyFolder.put ["home", ".json.json.tmp"] (.file (symbols "\x7b\n  \"resp"))

theorem litteredFolder_keeps :
    let route := Route.ofText tidyFolder.workingFolder "./.json.tmp"
    tidyFolder.IsTree ∧ route.fileName? = some ".json.tmp" ∧
      Runs tidyFolder (saveSteps route oddState) litteredFolder false ∧
      tidyFolder.Solid route.start route.names ∧
      litteredFolder.read ["home", ".json.tmp"] = .ok (symbols "\x7b\x7d") ∧
      loadFile litteredFolder "./.json.tmp" = loadFile tidyFolder "./.json.tmp" := by
  intro route
  have tree : tidyFolder.IsTree := by decide
  have named : route.fileName? = some ".json.tmp" := by decide
  have broken : Runs tidyFolder (saveSteps route oddState) litteredFolder false :=
    .next rfl (.brokenOff (.write (symbols "\x7b\n  \"resp") rfl))
  have solid : tidyFolder.Solid route.start route.names := Files.solid_of_not_mem (by decide)
  have place : litteredFolder.resolve "./.json.tmp" = ["home", ".json.tmp"] := by decide
  have old : litteredFolder.read ["home", ".json.tmp"] = .ok (symbols "\x7b\x7d") := rfl
  refine ⟨tree, named, broken, solid, old, ?_⟩
  have unlike : (symbols oddState.fileText)[1]? = some (some '\n') := by
    rw [SavedState.fileText_eq, SavedState.document, symbols, String.toList_ofList]
    rfl
  rcases ((broken_save_keeps tree named oddState).2.2 _ _ broken).2 with ⟨_, _, kept⟩ | ⟨new, _⟩
  · exact (kept solid).2
  · rw [place, old] at new
    rw [← Except.ok.inj new] at unlike
    cases unlike

def KeepsOrSaves (files : Files) (path : String) (saved : SavedState) : Prop :=
  ∀ left done, Runs files (saveSteps (.ofText files.workingFolder path) saved) left done →
    (loadFile left path).1 = (loadFile files path).1 ∨
      (loadFile left path).1 = .ok (some saved)

def detour : Files where
  workingFolder := ["home"]
  entries := [(["home", "a", "state.json"], .file (symbols "\x7b\x7d")),
    (["home", "a", "state.json.tmp"], .folder), (["home", "a"], .folder), (["home"], .folder)]

/-- The save fails, but it has made the folder `a/b`, through which the old state is found now. -/
theorem detour_not_keepsOrSaves :
    detour.IsTree ∧
      (Route.ofText detour.workingFolder "a/b/../state.json").fileName? = some "state.json" ∧
      (saveFile detour "a/b/../state.json" oddState).2.1.isSome = true ∧
      ¬ KeepsOrSaves detour "a/b/../state.json" oddState := by
  have before : (loadFile detour "a/b/../state.json").1 = .ok none := rfl
  have broken : Runs detour
      (saveSteps (.ofText detour.workingFolder "a/b/../state.json") oddState)
      (detour.put ["home", "a", "b"] .folder) false := .next rfl (.stopped _ _)
  have after : (loadFile (detour.put ["home", "a", "b"] .folder) "a/b/../state.json").1 =
      .ok (some {}) := rfl
  refine ⟨by decide, by decide, rfl, fun keepsOrSaves => ?_⟩
  rcases keepsOrSaves _ _ broken with same | saved
  · rw [before, after] at same
    cases same
  · rw [after] at saved
    have counts := congrArg (fun saved : SavedState => saved.clicks.size)
      (Option.some.inj (Except.ok.inj saved))
    exact absurd counts (by decide)

end AutoReply.Storage
