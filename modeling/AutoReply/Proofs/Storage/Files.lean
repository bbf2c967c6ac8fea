import AutoReply.Storage.Store

/-!
A file that was written and renamed is read back from its place. A file in place of nothing or of
another file leaves it as it was where routes lead.
-/

namespace AutoReply.Storage

open AutoReply.Text

namespace Files

theorem lookup_filter_ne {entries : List (FilePath × Content)} {path other : FilePath}
    (different : other ≠ path) :
    (entries.filter fun entry => entry.1 != path).lookup other = entries.lookup other := by
  induction entries with
  | nil => rfl
  | cons entry entries ih =>
      by_cases same : entry.1 = path
      · have unlike : (other == entry.1) = false := by simpa [same] using different
        rw [List.filter_cons_of_neg (by simp [same]), ih, List.lookup_cons, unlike]
      · rw [List.filter_cons_of_pos (by simp [same]), List.lookup_cons, List.lookup_cons, ih]

theorem contentAt_put_same (files : Files) {path : FilePath} (content : Content)
    (below : path ≠ []) : (files.put path content).contentAt path = some content := by
  simp [contentAt, put, below]

theorem contentAt_put_other (files : Files) {path other : FilePath} (content : Content)
    (different : other ≠ path) :
    (files.put path content).contentAt other = files.contentAt other := by
  have unlike : (other == path) = false := by simpa using different
  simp only [contentAt, put, List.lookup_cons, unlike, lookup_filter_ne different]

theorem contentAt_remove_other (files : Files) {path other : FilePath}
    (different : other ≠ path) :
    (files.remove path).contentAt other = files.contentAt other := by
  unfold contentAt remove
  rw [lookup_filter_ne different]

theorem look_eq_ok {files : Files} {path : FilePath} {content : Content} :
    files.look path = .ok content ↔
      (∀ count < path.length, files.contentAt (path.take count) = some .folder) ∧
        files.contentAt path = some content := by
  unfold look
  have way : ((List.range path.length).map fun count => files.contentAt (path.take count)).find?
      (· != some .folder) = none ↔
        ∀ count < path.length, files.contentAt (path.take count) = some .folder := by
    simp
  rw [← way]
  dsimp only
  split
  next _ found => simp [found]
  next found => simp [found]
  next clear =>
    simp only [clear, true_and]
    split
    next _ there => simp [there]
    next missing => simp [missing]

theorem read_eq_ok {files : Files} {path : FilePath} {content : List Symbol} :
    files.read path = .ok content ↔ files.look path = .ok (.file content) := by
  unfold read
  split <;> simp_all

theorem isFolder_eq_true {files : Files} {path : FilePath} :
    files.isFolder path = true ↔ files.look path = .ok .folder := by
  unfold isFolder
  split <;> simp_all

theorem isFolder_iff {files : Files} {path : FilePath} :
    files.isFolder path = true ↔
      ∀ count ≤ path.length, files.contentAt (path.take count) = some .folder := by
  rw [isFolder_eq_true, look_eq_ok]
  constructor
  · rintro ⟨way, there⟩ count short
    by_cases whole : count = path.length
    · rwa [whole, List.take_length]
    · exact way count (by omega)
  · intro way
    refine ⟨fun count short => way count (Nat.le_of_lt short), ?_⟩
    rw [← @List.take_length _ path]
    exact way _ (Nat.le_refl _)

theorem isFolder_of_append {files : Files} {path rest : FilePath}
    (folder : files.isFolder (path ++ rest) = true) : files.isFolder path = true := by
  rw [isFolder_iff] at folder ⊢
  intro count short
  have way := folder count (by rw [List.length_append]; omega)
  rwa [List.take_append_of_le_length short] at way

theorem contentAt_of_isFolder {files : Files} {path : FilePath}
    (folder : files.isFolder path = true) : files.contentAt path = some .folder :=
  (look_eq_ok.mp (isFolder_eq_true.mp folder)).2

theorem isFolder_of_read {files : Files} {path : FilePath} {content : List Symbol}
    (read : files.read path = .ok content) : files.isFolder path = false := by
  refine Bool.eq_false_iff.mpr fun folder => ?_
  have there := (look_eq_ok.mp (read_eq_ok.mp read)).2
  rw [contentAt_of_isFolder folder] at there
  cases there

theorem isFolder_congr {files other : Files} {path : FilePath}
    (elsewhere : ∀ place ≠ path, other.contentAt place = files.contentAt place)
    (before : files.isFolder path = false) (after : other.contentAt path ≠ some .folder)
    (place : FilePath) : other.isFolder place = files.isFolder place := by
  by_cases inside : path <+: place
  · obtain ⟨rest, rfl⟩ := inside
    have notBefore : files.isFolder (path ++ rest) = false := by
      rw [Bool.eq_false_iff] at before ⊢
      exact mt isFolder_of_append before
    have notAfter : other.isFolder (path ++ rest) = false := by
      refine Bool.eq_false_iff.mpr fun folder => after ?_
      exact contentAt_of_isFolder (isFolder_of_append folder)
    rw [notBefore, notAfter]
  · rw [Bool.eq_iff_iff, isFolder_iff, isFolder_iff]
    refine forall₂_congr fun count _ => ?_
    rw [elsewhere]
    rintro rfl
    exact inside (List.take_prefix count place)

theorem isFolder_put_file {files : Files} {path : FilePath} (free : files.isFolder path = false)
    (content : List Symbol) (place : FilePath) :
    (files.put path (.file content)).isFolder place = files.isFolder place := by
  have below : path ≠ [] := by
    rintro rfl
    cases free
  refine isFolder_congr (fun _ => contentAt_put_other files _) free ?_ place
  rw [contentAt_put_same _ _ below]
  simp

theorem isFolder_remove {files : Files} {path : FilePath} (free : files.isFolder path = false)
    (place : FilePath) : (files.remove path).isFolder place = files.isFolder place := by
  have below : path ≠ [] := by
    rintro rfl
    cases free
  refine isFolder_congr (fun _ => contentAt_remove_other files) free ?_ place
  have gone : (path, Content.folder) ∉ (files.remove path).entries := by simp [remove]
  rw [contentAt, if_neg below]
  intro found
  obtain ⟨before, after, split, _⟩ := List.lookup_eq_some_iff.mp found
  exact gone (by simp [split])

section

variable {files other : Files} (same : ∀ path, other.isFolder path = files.isFolder path)

include same

theorem walk_congr (start : FilePath) (names : List String) :
    other.walk start names = files.walk start names := by
  have steps : other.step = files.step := by
    funext path name
    rw [Files.step, Files.step, same]
  rw [walk, walk, steps]

theorem place_congr (route : Route) : other.place route = files.place route := by
  rw [place, place, walk_congr same]
  simp only [same]

end

theorem write_eq_ok {files after : Files} {path : FilePath} {content : List Symbol}
    (written : files.write path content = .ok after) :
    files.isFolder path = false ∧ after = files.put path (.file content) := by
  have free : files.look path ≠ .ok .folder := by
    intro folder
    simp [Files.write, folder] at written
  refine ⟨Bool.eq_false_iff.mpr fun folder => free (isFolder_eq_true.mp folder), ?_⟩
  unfold write at written
  split at written
  next => cases written
  next => exact (Except.ok.inj written).symm
  next =>
    split at written
    next => exact (Except.ok.inj written).symm
    next => cases written
  next => cases written

theorem eq_of_read_put {files : Files} {path : FilePath} {content other : List Symbol}
    (read : (files.put path (.file content)).read path = .ok other) : other = content := by
  have there := (look_eq_ok.mp (read_eq_ok.mp read)).2
  have below : path ≠ [] := by
    rintro rfl
    cases there
  rw [contentAt_put_same files _ below] at there
  cases there
  rfl

theorem read_put {files : Files} {path : FilePath} (free : files.isFolder path = false)
    (above : files.isFolder path.dropLast = true) (content : List Symbol) :
    (files.put path (.file content)).read path = .ok content := by
  have below : path ≠ [] := by
    rintro rfl
    cases free
  rw [← isFolder_put_file free content, isFolder_iff, List.length_dropLast] at above
  refine read_eq_ok.mpr (look_eq_ok.mpr ⟨fun count short => ?_, contentAt_put_same files _ below⟩)
  have way := above count (by omega)
  rwa [List.dropLast_eq_take, List.take_take, Nat.min_eq_left (by omega)] at way

theorem rename_eq_ok {files after : Files} {source target : FilePath}
    (renamed : files.rename source target = .ok after) :
    ∃ content, files.read source = .ok content ∧ files.isFolder target = false ∧
      files.isFolder target.dropLast = true ∧
      after = (files.remove source).put target (.file content) := by
  unfold rename at renamed
  split at renamed
  next => cases renamed
  next content read =>
    split at renamed
    next => cases renamed
    next free =>
      split at renamed
      next above => exact ⟨content, read, by simpa using free, above, (Except.ok.inj renamed).symm⟩
      next => cases renamed

theorem read_of_rename {files after : Files} {source target : FilePath} {content : List Symbol}
    (read : files.read source = .ok content) (renamed : files.rename source target = .ok after) :
    after.read target = .ok content ∧ ∀ path, after.isFolder path = files.isFolder path := by
  obtain ⟨_, same, free, above, rfl⟩ := rename_eq_ok renamed
  rw [read] at same
  cases same
  have removed := isFolder_remove (isFolder_of_read read)
  rw [← removed] at free above
  exact ⟨read_put free above content, fun path => (isFolder_put_file free content path).trans
    (removed path)⟩

theorem makeFolder_eq_ok {files after : Files} {path : FilePath}
    (made : files.makeFolder path = .ok after) :
    after = files ∨ files.look path = .error .notFound ∧ files.isFolder path.dropLast = true ∧
      after = files.put path .folder := by
  unfold makeFolder at made
  split at made
  next => exact .inl (Except.ok.inj made).symm
  next => cases made
  next missing =>
    split at made
    next above => exact .inr ⟨missing, above, (Except.ok.inj made).symm⟩
    next => cases made
  next => cases made

/-- What holds whenever a missing folder on the way has been made, holds of what is left. -/
theorem makeFolders_induction {files : Files} {start : FilePath} {names : List String}
    {motive : Files → Prop} (unchanged : motive files)
    (folder : ∀ between taken, motive between →
      let path := between.walk start (names.take taken)
      between.look path = .error .notFound → between.isFolder path.dropLast = true →
        motive (between.put path .folder))
    (count : Nat) : motive (files.makeFolders start names count).1 := by
  have one : ∀ between taken, motive between →
      motive (between.leave (between.makeFolder (between.walk start (names.take taken)))).1 := by
    intro between taken holds
    cases made : between.makeFolder (between.walk start (names.take taken)) with
    | error error => exact holds
    | ok after =>
        rcases makeFolder_eq_ok made with rfl | ⟨missing, above, rfl⟩
        · exact holds
        · exact folder between taken holds missing above
  induction count with
  | zero => exact unchanged
  | succ count ih =>
      rw [makeFolders]
      split
      next =>
        split
        next before done =>
          rw [done] at ih
          exact one before (count + 1) ih
        next => exact ih
      next => exact one files (count + 1) unchanged

theorem leave_eq_none {files left : Files} {answer : Except FileError Files}
    (done : files.leave answer = (left, none)) : answer = .ok left := by
  cases answer with
  | error error => cases done
  | ok changed => rw [(Prod.mk.inj done).1]

theorem workingFolder_makeFolders (files : Files) (start : FilePath) (names : List String)
    (count : Nat) : (files.makeFolders start names count).1.workingFolder = files.workingFolder :=
  makeFolders_induction (motive := fun left => left.workingFolder = files.workingFolder) rfl
    (fun _ _ same _ _ => same) count

end Files

theorem workingFolder_run (files : Files) (step : Step) :
    (step.run files).1.workingFolder = files.workingFolder := by
  cases step with
  | makeFolders route => exact files.workingFolder_makeFolders _ _ _
  | write route content =>
      rw [Step.run]
      cases written : files.write (files.place route) content with
      | error error => rfl
      | ok after =>
          rw [(Files.write_eq_ok written).2]
          rfl
  | rename source target =>
      rw [Step.run]
      cases renamed : files.rename (files.place source) (files.place target) with
      | error error => rfl
      | ok after =>
          obtain ⟨content, _, _, _, rfl⟩ := Files.rename_eq_ok renamed
          rfl

theorem workingFolder_runSteps (files : Files) (steps : List Step) :
    (runSteps files steps).1.workingFolder = files.workingFolder := by
  induction steps generalizing files with
  | nil => rfl
  | cons step steps ih =>
      have first := workingFolder_run files step
      rw [runSteps]
      split
      next changed ran =>
        rw [ran] at first
        rw [ih, first]
      next => exact first

theorem runSteps_cons_eq_none {files after : Files} {step : Step} {steps : List Step}
    (ran : runSteps files (step :: steps) = (after, none)) :
    ∃ between, step.run files = (between, none) ∧ runSteps between steps = (after, none) := by
  rw [runSteps] at ran
  split at ran
  next between stepped => exact ⟨between, stepped, ran⟩
  next failed => exact absurd ran (failed after)

theorem read_of_saved {files after : Files} {route : Route} {saved : SavedState}
    (ran : runSteps files (saveSteps route saved) = (after, none)) :
    after.read (after.place route) = .ok (symbols saved.fileText) := by
  obtain ⟨made, _, ran⟩ := runSteps_cons_eq_none ran
  obtain ⟨written, wrote, ran⟩ := runSteps_cons_eq_none ran
  obtain ⟨renamed, moved, ran⟩ := runSteps_cons_eq_none ran
  cases ran
  obtain ⟨free, rfl⟩ := Files.write_eq_ok (Files.leave_eq_none wrote)
  have renames := Files.leave_eq_none moved
  obtain ⟨content, read, _⟩ := Files.rename_eq_ok renames
  obtain ⟨found, same⟩ := Files.read_of_rename read renames
  rw [Files.place_congr same, found]
  rw [Files.place_congr (Files.isFolder_put_file free _)] at read
  rw [Files.eq_of_read_put read]

/-- A saved file is found under the name that it was saved under. -/
theorem read_of_saveFile {files after : Files} {path : String} {saved : SavedState}
    {journal : Journal} (done : saveFile files path saved = (after, none, journal)) :
    after.read (after.resolve path) = .ok (symbols saved.fileText) := by
  have folder := workingFolder_runSteps files
    (saveSteps (.ofText files.workingFolder path) saved)
  unfold saveFile at done
  split at done
  next ran =>
    cases done
    rw [ran] at folder
    rw [Files.resolve, folder]
    exact read_of_saved ran
  next => cases done

end AutoReply.Storage
