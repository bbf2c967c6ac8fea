import AutoReply.Proofs.Storage.Trees

/-!
Where routes lead while folders are made on their way. A route leads to the same place all the time
unless its two dots lead back over a folder that is missing at first.
-/

namespace AutoReply.Storage

open AutoReply.Text

namespace Files

/-- Two dots lead back from what is there only. -/
def Solid (files : Files) (start : FilePath) (names : List String) : Prop :=
  ∀ before after, names = before ++ ".." :: after →
    files.look (files.walk start before) ≠ .error .notFound

theorem Solid.left {files : Files} {start : FilePath} {names rest : List String}
    (solid : files.Solid start (names ++ rest)) : files.Solid start names := by
  intro before after split
  refine solid before (after ++ rest) ?_
  rw [split, List.append_assoc, List.cons_append]

theorem solid_of_not_mem {files : Files} {start : FilePath} {names : List String}
    (straight : ".." ∉ names) : files.Solid start names := by
  intro before after split
  simp [split] at straight

structure Grown (files left : Files) : Prop where
  tree : left.IsTree
  kept : ∀ path content, files.contentAt path = some content → left.contentAt path = some content
  file : ∀ path content, left.contentAt path = some (.file content) →
    files.contentAt path = some (.file content)

section

variable {files left : Files} {start : FilePath} {names : List String}

theorem Grown.refl (tree : files.IsTree) : files.Grown files :=
  ⟨tree, fun _ _ there => there, fun _ _ there => there⟩

theorem Grown.look (grown : files.Grown left) {path : FilePath}
    (there : files.look path ≠ .error .notFound) : left.look path = files.look path := by
  induction path using List.reverseRecOn with
  | nil => rfl
  | append_singleton folder name ih =>
      have above : files.look folder ≠ .error .notFound := by
        intro missing
        exact there (look_append_of_error missing [name])
      rw [look_concat, look_concat, ih above]
      rw [look_concat] at there
      cases seen : files.look folder with
      | error error => rfl
      | ok content =>
          rw [seen] at there
          cases content with
          | file content => rfl
          | folder =>
              cases found : files.contentAt (folder ++ [name]) with
              | none => simp [found] at there
              | some content => rw [grown.kept _ _ found]

theorem Grown.read (grown : files.Grown left) (tree : files.IsTree) {path : FilePath}
    {content : List Symbol} (read : left.read path = .ok content) :
    files.read path = .ok content := by
  have file := grown.file _ _ (look_eq_ok.mp (read_eq_ok.mp read)).2
  exact read_eq_ok.mpr (look_eq_ok.mpr ⟨tree.folders_on_way (tree.folder_above file), file⟩)

theorem Grown.put_folder (grown : files.Grown left) {path : FilePath}
    (missing : left.look path = .error .notFound) (above : left.isFolder path.dropLast = true) :
    files.Grown (left.put path .folder) := by
  have folderAbove := contentAt_of_isFolder above
  have absent := grown.tree.contentAt_of_look folderAbove missing
  have below : path ≠ [] := by
    rintro rfl
    cases absent
  constructor
  case tree => exact grown.tree.put folderAbove (by simp [absent])
  case kept =>
    intro place content there
    have stays := grown.kept place content there
    rw [contentAt_put_other left .folder, stays]
    rintro rfl
    rw [absent] at stays
    cases stays
  case file =>
    intro place content there
    by_cases same : place = path
    · rw [same, contentAt_put_same left _ below] at there
      cases there
    · rw [contentAt_put_other left .folder same] at there
      exact grown.file place content there

theorem walk_concat (files : Files) (start : FilePath) (names : List String) (name : String) :
    files.walk start (names ++ [name]) = files.step (files.walk start names) name := by
  rw [walk, walk, List.foldl_append, List.foldl_cons, List.foldl_nil]

theorem step_of_ne {name : String} (files : Files) (path : FilePath) (down : name ≠ "..") :
    files.step path name = path ++ [name] := by
  simp [Files.step, down]

theorem Grown.walk (grown : files.Grown left) (solid : files.Solid start names) :
    left.walk start names = files.walk start names := by
  induction names using List.reverseRecOn with
  | nil => rfl
  | append_singleton names name ih =>
      rw [walk_concat, walk_concat, ih solid.left]
      by_cases down : name = ".."
      · have seen := grown.look (solid names [] (by rw [down]))
        rw [Files.step, Files.step, isFolder, isFolder, seen]
      · rw [step_of_ne left _ down, step_of_ne files _ down]

theorem Solid.walk_of_missing {rest : List String} (solid : files.Solid start (names ++ rest))
    (missing : files.look (files.walk start names) = .error .notFound) :
    files.walk start (names ++ rest) = files.walk start names ++ rest := by
  induction rest using List.reverseRecOn with
  | nil => rw [List.append_nil, List.append_nil]
  | append_singleton rest name ih =>
      rw [← List.append_assoc] at solid ⊢
      have before := ih solid.left
      have down : name ≠ ".." := by
        rintro rfl
        refine solid (names ++ rest) [] rfl ?_
        rw [before]
        exact look_append_of_error missing rest
      rw [walk_concat, before, step_of_ne files _ down, List.append_assoc]

/-- The folders that are made before the end of a route are not what it leads to. -/
theorem grown_makeFolders (tree : files.IsTree) (count : Nat) :
    files.Grown (files.makeFolders start names count).1 ∧
      ∀ rest, rest ≠ [] → files.Solid start (names ++ rest) →
        (files.makeFolders start names count).1.look (files.walk start (names ++ rest)) =
          files.look (files.walk start (names ++ rest)) := by
  refine makeFolders_induction (motive := fun left => files.Grown left ∧
    ∀ rest, rest ≠ [] → files.Solid start (names ++ rest) →
      left.look (files.walk start (names ++ rest)) =
        files.look (files.walk start (names ++ rest)))
    ⟨.refl tree, fun _ _ _ => rfl⟩ ?_ count
  rintro left taken ⟨grown, same⟩ path missing above
  refine ⟨grown.put_folder missing above, fun rest some solid => ?_⟩
  rw [← same rest some solid]
  refine grown.tree.look_put_folder (contentAt_of_isFolder above)
    (grown.tree.contentAt_of_look (contentAt_of_isFolder above) missing) ?_
  rw [← List.take_append_drop taken names, List.append_assoc] at solid
  have way := grown.walk solid.left
  dsimp only [path] at missing ⊢
  rw [way] at missing ⊢
  have absent : files.look (files.walk start (names.take taken)) = .error .notFound := by
    by_contra there
    exact there (grown.look there ▸ missing)
  have further := solid.walk_of_missing absent
  rw [← List.append_assoc, List.take_append_drop] at further
  rw [further]
  simp [some]

theorem read_place_congr {route : Route}
    (way : left.walk route.start route.names = files.walk route.start route.names)
    (same : left.look (files.walk route.start route.names) =
      files.look (files.walk route.start route.names)) :
    left.read (left.place route) = files.read (files.place route) := by
  have folder : left.isFolder (files.walk route.start route.names) =
      files.isFolder (files.walk route.start route.names) := by rw [isFolder, isFolder, same]
  unfold place
  dsimp only
  rw [way, folder]
  split
  next barred =>
    rw [Bool.and_eq_true, Bool.not_eq_true', Bool.eq_false_iff, Ne, isFolder_eq_true] at barred
    unfold read
    rw [look_concat, look_concat, same]
    cases seen : files.look (files.walk route.start route.names) with
    | error error => rfl
    | ok content =>
        cases content with
        | file content => rfl
        | folder => exact absurd seen barred.2
  next => exact read_congr same

end

end Files

end AutoReply.Storage
