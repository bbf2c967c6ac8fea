import Mathlib.Data.List.Induction
import AutoReply.Proofs.Storage.Files

/-!
Files and folders as a tree. What operations leave as it was is read off the folders on the way to
it.
-/

namespace AutoReply.Storage

open AutoReply.Text

namespace Files

/-- Everything that is there is in a folder. -/
def IsTree (files : Files) : Prop :=
  ∀ entry ∈ files.entries, files.contentAt entry.1.dropLast = some .folder

instance (files : Files) : Decidable files.IsTree := List.decidableBAll _ _

theorem IsTree.folder_above {files : Files} (tree : files.IsTree) {path : FilePath}
    {content : Content} (there : files.contentAt path = some content) :
    files.contentAt path.dropLast = some .folder := by
  by_cases root : path = []
  · rw [root]
    rfl
  · rw [contentAt, if_neg root] at there
    obtain ⟨before, after, split, _⟩ := List.lookup_eq_some_iff.mp there
    exact tree (path, content) (by simp [split])

theorem IsTree.folders_on_way {files : Files} (tree : files.IsTree) {path : FilePath}
    (above : files.contentAt path.dropLast = some .folder) :
    ∀ count < path.length, files.contentAt (path.take count) = some .folder := by
  induction path using List.reverseRecOn with
  | nil => simp
  | append_singleton folder name ih =>
      rw [List.dropLast_concat] at above
      intro count short
      rw [List.length_append, List.length_singleton] at short
      by_cases last : count = folder.length
      · rwa [last, List.take_left]
      · rw [List.take_append_of_le_length (by omega)]
        exact ih (tree.folder_above above) count (by omega)

theorem look_congr {files other : Files} {path : FilePath}
    (same : ∀ count ≤ path.length,
      other.contentAt (path.take count) = files.contentAt (path.take count)) :
    other.look path = files.look path := by
  have way : ((List.range path.length).map fun count => other.contentAt (path.take count)) =
      (List.range path.length).map fun count => files.contentAt (path.take count) := by
    refine List.map_congr_left fun count member => same count ?_
    have := List.mem_range.mp member
    omega
  have there := same path.length (Nat.le_refl _)
  rw [List.take_length] at there
  unfold look
  rw [way, there]

theorem look_concat (files : Files) (folder : FilePath) (name : String) :
    files.look (folder ++ [name]) =
      match files.look folder with
      | .ok .folder =>
          match files.contentAt (folder ++ [name]) with
          | some content => .ok content
          | none => .error .notFound
      | .ok (.file _) => .error .notFolder
      | .error error => .error error := by
  have way : ((List.range (folder ++ [name]).length).map fun count =>
      files.contentAt ((folder ++ [name]).take count)) =
        ((List.range folder.length).map fun count => files.contentAt (folder.take count)) ++
          [files.contentAt folder] := by
    rw [List.length_append, List.length_singleton, List.range_succ, List.map_append,
      List.map_singleton, List.take_left]
    congr 1
    refine List.map_congr_left fun count member => ?_
    rw [List.take_append_of_le_length (Nat.le_of_lt (List.mem_range.mp member))]
  unfold look
  dsimp only
  rw [way, List.find?_append]
  generalize List.find? _ (List.map _ _) = blocked
  cases blocked with
  | some content => cases content <;> rfl
  | none =>
      cases there : files.contentAt folder with
      | none => simp
      | some content =>
          cases content with
          | file content => simp
          | folder =>
              simp only [List.find?_singleton, bne_self_eq_false]
              rfl

theorem look_append_of_error {files : Files} {path : FilePath} {error : FileError}
    (absent : files.look path = .error error) (rest : FilePath) :
    files.look (path ++ rest) = .error error := by
  induction rest using List.reverseRecOn with
  | nil => rwa [List.append_nil]
  | append_singleton rest name ih => rw [← List.append_assoc, look_concat, ih]

theorem IsTree.isFolder_iff {files : Files} (tree : files.IsTree) {path : FilePath} :
    files.isFolder path = true ↔ files.contentAt path = some .folder := by
  refine ⟨contentAt_of_isFolder, fun there => isFolder_eq_true.mpr (look_eq_ok.mpr ⟨?_, there⟩)⟩
  exact tree.folders_on_way (tree.folder_above there)

theorem IsTree.put {files : Files} (tree : files.IsTree) {path : FilePath} {content : Content}
    (above : files.contentAt path.dropLast = some .folder)
    (free : files.contentAt path ≠ some .folder) : (files.put path content).IsTree := by
  have kept : ∀ folder, files.contentAt folder = some .folder →
      (files.put path content).contentAt folder = some .folder := by
    intro folder there
    rwa [contentAt_put_other files content (ne_of_apply_ne files.contentAt (there ▸ free.symm))]
  intro entry member
  rcases List.mem_cons.mp member with rfl | old
  · exact kept _ above
  · exact kept _ (tree entry (List.mem_filter.mp old).1)

theorem IsTree.look_of_missing {files : Files} (tree : files.IsTree) {path : FilePath}
    (above : files.contentAt path.dropLast = some .folder)
    (missing : files.contentAt path = none) : files.look path = .error .notFound := by
  cases path using List.reverseRecOn with
  | nil => cases missing
  | append_singleton folder name =>
      rw [List.dropLast_concat] at above
      rw [look_concat, isFolder_eq_true.mp (tree.isFolder_iff.mpr above)]
      simp only [missing]

/-- A new folder is seen at its own place only. -/
theorem IsTree.look_put_folder {files : Files} (tree : files.IsTree) {folder path : FilePath}
    (above : files.contentAt folder.dropLast = some .folder)
    (missing : files.contentAt folder = none) (different : path ≠ folder) :
    (files.put folder .folder).look path = files.look path := by
  induction path using List.reverseRecOn with
  | nil => rfl
  | append_singleton way name ih =>
      rw [look_concat, look_concat, contentAt_put_other files .folder different]
      by_cases inside : way = folder
      · have empty : files.contentAt (way ++ [name]) = none := by
          refine Option.eq_none_iff_forall_ne_some.mpr fun content there => ?_
          have parent := tree.folder_above there
          rw [List.dropLast_concat, inside, missing] at parent
          cases parent
        have below : folder ≠ [] := by
          rintro rfl
          cases missing
        have made : (files.put folder .folder).IsTree := tree.put above (by simp [missing])
        have there := made.isFolder_iff.mpr (contentAt_put_same files .folder below)
        rw [inside] at empty ⊢
        rw [isFolder_eq_true.mp there, tree.look_of_missing above missing]
        simp only [empty]
      · rw [ih inside]

theorem IsTree.remove {files : Files} (tree : files.IsTree) {path : FilePath}
    (free : files.contentAt path ≠ some .folder) : (files.remove path).IsTree := by
  intro entry member
  have there := tree entry (List.mem_filter.mp member).1
  rwa [contentAt_remove_other files (ne_of_apply_ne files.contentAt (there ▸ free.symm))]

theorem IsTree.contentAt_of_look {files : Files} (tree : files.IsTree) {path : FilePath}
    {error : FileError} (above : files.contentAt path.dropLast = some .folder)
    (absent : files.look path = .error error) : files.contentAt path = none := by
  cases there : files.contentAt path with
  | none => rfl
  | some content =>
      rw [look_eq_ok.mpr ⟨tree.folders_on_way above, there⟩] at absent
      cases absent

theorem IsTree.contentAt_ne {files : Files} (tree : files.IsTree) {path : FilePath}
    (free : files.isFolder path = false) : files.contentAt path ≠ some .folder := by
  intro folder
  rw [tree.isFolder_iff.mpr folder] at free
  cases free

theorem IsTree.write {files after : Files} (tree : files.IsTree) {path : FilePath}
    {content : List Symbol} (written : files.write path content = .ok after) : after.IsTree := by
  obtain ⟨free, rfl⟩ := write_eq_ok written
  refine tree.put ?_ (tree.contentAt_ne free)
  unfold Files.write at written
  split at written
  next => cases written
  next old there => exact tree.folder_above (look_eq_ok.mp there).2
  next =>
    split at written
    next above => exact contentAt_of_isFolder above
    next => cases written
  next => cases written

theorem IsTree.rename {files after : Files} (tree : files.IsTree) {source target : FilePath}
    (renamed : files.rename source target = .ok after) : after.IsTree := by
  obtain ⟨content, read, free, above, rfl⟩ := rename_eq_ok renamed
  have file := isFolder_of_read read
  have removed := tree.remove (tree.contentAt_ne file)
  rw [← isFolder_remove file] at free above
  exact removed.put (contentAt_of_isFolder above) (removed.contentAt_ne free)

theorem look_put_beside (files : Files) (content : Content) {path beside : FilePath}
    (sameLength : beside.length = path.length) (different : beside ≠ path) :
    (files.put beside content).look path = files.look path := by
  refine look_congr fun count short => contentAt_put_other files content ?_
  intro same
  have length := congrArg List.length same
  rw [List.length_take] at length
  rw [List.take_of_length_le (by omega)] at same
  exact different same.symm

theorem read_congr {files other : Files} {path : FilePath}
    (same : other.look path = files.look path) : other.read path = files.read path := by
  unfold read
  rw [same]

end Files

end AutoReply.Storage
