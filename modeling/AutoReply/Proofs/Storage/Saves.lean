import AutoReply.Storage.Store

/-!
What callers of a store may count on: a save that fails leaves what is stored, or, more strongly,
every save succeeds and is read back.
-/

namespace AutoReply

open AutoReply.Storage

namespace Storage

def stored (storage : Storage) : Option SavedState :=
  match storage.store with
  | .memory memory => memory.content
  | .file path =>
      match (loadFile storage.files path).1 with
      | .ok found => found
      | .error _ => none

def afterSaves (storage : Storage) (documents : List SavedState) : Storage :=
  documents.foldl (fun storage document => (storage.save document).1) storage

/-- A save stores its document, or fails and leaves what is stored as it was. -/
def SavesOrKeeps (storage : Storage) : Prop :=
  ∀ document,
    ((storage.save document).2.1 = none ∧ (storage.save document).1.stored = some document) ∨
      ∃ error, (storage.save document).2.1 = some error ∧
        (storage.save document).1.stored = storage.stored

/-- So does every save after any others, in whatever pattern these fail. -/
def Dependable (storage : Storage) : Prop :=
  ∀ earlier, (storage.afterSaves earlier).SavesOrKeeps

def Working (storage : Storage) : Prop :=
  ∀ earlier document, ((storage.afterSaves earlier).save document).2.1 = none ∧
    ((storage.afterSaves earlier).save document).1.load.1 = .ok (some document)

theorem afterSaves_append (storage : Storage) (earlier later : List SavedState) :
    storage.afterSaves (earlier ++ later) = (storage.afterSaves earlier).afterSaves later :=
  List.foldl_append

theorem Dependable.savesOrKeeps {storage : Storage} (dependable : storage.Dependable) :
    storage.SavesOrKeeps :=
  dependable []

theorem Dependable.afterSaves {storage : Storage} (dependable : storage.Dependable)
    (documents : List SavedState) : (storage.afterSaves documents).Dependable := by
  intro earlier
  rw [← afterSaves_append]
  exact dependable (documents ++ earlier)

theorem Working.afterSaves {storage : Storage} (working : storage.Working)
    (documents : List SavedState) : (storage.afterSaves documents).Working := by
  intro earlier
  rw [← afterSaves_append]
  exact working (documents ++ earlier)

theorem savesOrKeeps_memory (files : Files) (memory : Memory) :
    SavesOrKeeps ⟨files, .memory memory⟩ := by
  intro document
  unfold save Memory.save
  cases fault : memory.saveFault memory.attempts with
  | none => exact .inl ⟨by simp [fault], by simp [fault, stored]⟩
  | some error => exact .inr ⟨error, by simp [fault], by simp [fault, stored]⟩

theorem afterSaves_memory (files : Files) : ∀ (documents : List SavedState) (memory : Memory),
    ∃ later, afterSaves ⟨files, .memory memory⟩ documents = ⟨files, .memory later⟩ ∧
      later.loadFault = memory.loadFault ∧ later.saveFault = memory.saveFault ∧
      later.attempts = memory.attempts + documents.length := by
  intro documents
  induction documents with
  | nil =>
      intro memory
      exact ⟨memory, rfl, rfl, rfl, rfl⟩
  | cons document documents ih =>
      intro memory
      have step : ((⟨files, .memory memory⟩ : Storage).save document).1 =
          ⟨files, .memory (memory.save document).1⟩ := rfl
      obtain ⟨later, same, loads, faults, attempts⟩ := ih (memory.save document).1
      have kept : (memory.save document).1.loadFault = memory.loadFault ∧
          (memory.save document).1.saveFault = memory.saveFault ∧
          (memory.save document).1.attempts = memory.attempts + 1 := by
        unfold Memory.save
        cases memory.saveFault memory.attempts <;> exact ⟨rfl, rfl, rfl⟩
      refine ⟨later, ?_, loads.trans kept.1, faults.trans kept.2.1, ?_⟩
      · rw [← same, ← step]
        rfl
      · rw [attempts, kept.2.2, List.length_cons]
        omega

theorem dependable_memory (files : Files) (memory : Memory) :
    Dependable ⟨files, .memory memory⟩ := by
  intro earlier
  obtain ⟨later, same, _⟩ := afterSaves_memory files earlier memory
  rw [same]
  exact savesOrKeeps_memory files later

theorem working_memory (files : Files) {memory : Memory} (loads : memory.loadFault = none)
    (saves : ∀ attempt, memory.saveFault attempt = none) : Working ⟨files, .memory memory⟩ := by
  intro earlier document
  obtain ⟨later, same, laterLoads, laterSaves, _⟩ := afterSaves_memory files earlier memory
  rw [same]
  have none : later.saveFault later.attempts = none := by rw [laterSaves, saves]
  unfold save Memory.save
  simp only [none]
  refine ⟨trivial, ?_⟩
  unfold load
  simp only [laterLoads, loads]

end Storage

end AutoReply
