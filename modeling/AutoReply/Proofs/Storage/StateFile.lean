import AutoReply.Proofs.Json.Objects
import AutoReply.Proofs.SortedMap
import AutoReply.Proofs.Storage.Files
import AutoReply.Proofs.Text.Encoding

/-!
What a state file holds is read back: the file of a save, and files with some of the maps left out.
-/

namespace AutoReply

open AutoReply.Chat AutoReply.Json AutoReply.Storage AutoReply.Text

namespace SavedState

variable {layout : Json.Layout} {depth : Nat}

def members (saved : SavedState) : List (String × Json) :=
  [("responses_states",
      .object (saved.states.entries.map fun (name, state) => (name, .text state))),
    ("responses_enabled",
      .object (saved.enabled.entries.map fun (name, enabled) => (name, .bool enabled))),
    ("click_db",
      .object (saved.clicks.entries.map fun (member, count) =>
        (toString member, .number count.toNat)))]

theorem readsEntries_states : ReadsEntries layout depth Reader.key Reader.text
    fun (name, state) => (name, Json.text state) := by
  refine ⟨fun entry rest => reads_key entry.1 rest, fun entry => ?_⟩
  simpa [Json.chars] using readsValue_text entry.2

theorem readsEntries_enabled : ReadsEntries layout depth Reader.key Reader.bool
    fun (name, enabled) => (name, Json.bool enabled) := by
  refine ⟨fun entry rest => reads_key entry.1 rest, fun entry => ?_⟩
  simpa [Json.chars] using readsValue_bool entry.2

theorem readsEntries_clicks :
    ReadsEntries layout depth (UserId.mk <$> Reader.numericKey) Reader.word64
      fun (member, count) => (toString member, Json.number count.toNat) := by
  refine ⟨fun entry rest => (reads_numericKey entry.1.number rest).last rfl, fun entry => ?_⟩
  simpa [Json.chars, Json.number] using readsValue_word64 entry.2

def draftOf (keep : String → Bool) (saved : SavedState) : Draft where
  states := if keep "responses_states" then some saved.states else none
  enabled := if keep "responses_enabled" then some saved.enabled else none
  clicks := if keep "click_db" then some saved.clicks else none

/-- The state with the other maps empty. -/
def keeping (keep : String → Bool) (saved : SavedState) : SavedState where
  states := if keep "responses_states" then saved.states else .empty
  enabled := if keep "responses_enabled" then saved.enabled else .empty
  clicks := if keep "click_db" then saved.clicks else .empty

theorem finish_draftOf (keep : String → Bool) (saved : SavedState) :
    record.finish (draftOf keep saved) = .ok (saved.keeping keep) := by
  simp only [record, draftOf, keeping]
  cases keep "responses_states" <;> cases keep "responses_enabled" <;> cases keep "click_db" <;> rfl

theorem fills_members (spaced : Spaced layout) (keep : String → Bool) (saved : SavedState) :
    Fills layout (depth + 1) record.fields {} (saved.members.filter fun member => keep member.1)
      (draftOf keep saved) := by
  have clicks : Fills layout (depth + 1) record.fields { draftOf keep saved with clicks := none }
      ((saved.members.drop 2).filter fun member => keep member.1) (draftOf keep saved) := by
    refine .filter_cons rfl rfl (fun kept => ?_) (fun left => ?_) (.nil _)
    · rw [draftOf, if_pos kept]
      exact (readsValue_map spaced readsEntries_clicks saved.clicks).map _
    · rw [draftOf, left]
      rfl
  have enabled : Fills layout (depth + 1) record.fields
      { draftOf keep saved with enabled := none, clicks := none }
      ((saved.members.drop 1).filter fun member => keep member.1) (draftOf keep saved) := by
    refine .filter_cons rfl rfl (fun kept => ?_) (fun left => ?_) clicks
    · rw [draftOf, if_pos kept]
      exact (readsValue_map spaced readsEntries_enabled saved.enabled).map _
    · rw [draftOf, left]
      rfl
  refine .filter_cons rfl rfl (fun kept => ?_) (fun left => ?_) enabled
  · rw [draftOf, if_pos kept]
    exact (readsValue_map spaced readsEntries_states saved.states).map _
  · rw [draftOf, left]
    rfl

def document (layout : Json.Layout) (keep : String → Bool) (saved : SavedState) : String :=
  String.ofList
    (Json.chars layout 0 (.object (saved.members.filter fun member => keep member.1)))

theorem fileText_eq (saved : SavedState) :
    saved.fileText = saved.document .indented fun _ => true := rfl

theorem ofJsonText_document (spaced : Spaced layout) (keep : String → Bool) (saved : SavedState) :
    ofJsonText (symbols (saved.document layout keep)) = .ok (saved.keeping keep) := by
  have read : ReadsValue record.reader (Json.chars layout 0 _) (saved.keeping keep) :=
    readsValue_record spaced record (fills_members spaced keep saved) (finish_draftOf keep saved)
  rw [ofJsonText, symbols, document, String.toList_ofList]
  exact whole_of_readsValue read

theorem ofJsonText_fileText (saved : SavedState) :
    ofJsonText (symbols saved.fileText) = .ok saved := by
  rw [fileText_eq]
  exact ofJsonText_document spaced_indented (fun _ => true) saved

end SavedState

namespace Storage

theorem loadFile_of_read {files : Files} {path : String} {content : List Symbol}
    {saved : SavedState} (read : files.read (files.resolve path) = .ok content)
    (parsed : SavedState.ofJsonText content = .ok saved) :
    loadFile files path = (.ok (some saved), []) := by
  simp only [loadFile, read, parsed]

end Storage

/-- The bytes of a state file hold the state: they are decoded to it, a save leaves them where the
next load finds them, and a document without some of the maps holds the state without these. -/
theorem state_file_read_back (saved : SavedState) :
    SavedState.ofJsonText (decode saved.fileText.toUTF8.toList) = .ok saved ∧
      (∀ (files after : Files) (path : String) (journal : Journal),
        saveFile files path saved = (after, none, journal) →
          after.read (after.resolve path) = .ok (decode saved.fileText.toUTF8.toList) ∧
            loadFile after path = (.ok (some saved), [])) ∧
      ∀ (files : Files) (path : String) (layout : Json.Layout) (keep : String → Bool),
        Spaced layout →
        files.read (files.resolve path) =
          .ok (decode (saved.document layout keep).toUTF8.toList) →
        loadFile files path = (.ok (some (saved.keeping keep)), []) := by
  refine ⟨?_, fun files after path journal done => ?_,
    fun files path layout keep spaced read => ?_⟩
  · rw [decode_toUTF8]
    exact saved.ofJsonText_fileText
  · have read := read_of_saveFile done
    rw [decode_toUTF8]
    exact ⟨read, loadFile_of_read read saved.ofJsonText_fileText⟩
  · rw [decode_toUTF8] at read
    exact loadFile_of_read read (SavedState.ofJsonText_document spaced keep saved)

def oddState : SavedState where
  states := .ofList [("", "\"\\"), ("a\n\x01", "ü\x7f")]
  enabled := .ofList [("😀", false)]
  clicks := .ofList [(⟨18446744073709551615⟩, 18446744073709551615), (⟨0⟩, 0)]

def emptyFolder : Files := ⟨["home"], [(["home"], .folder)]⟩

def afterSave : Files := (saveFile emptyFolder "odd.json" oddState).1

def onlyClicks (name : String) : Bool := name == "click_db"

def clickFolder : Files :=
  emptyFolder.put ["home", "clicks.json"]
    (.file (decode (oddState.document .oneLine onlyClicks).toUTF8.toList))

theorem oddState_read_back :
    loadFile afterSave "odd.json" = (.ok (some oddState), []) ∧
      loadFile clickFolder "clicks.json" = (.ok (some (oddState.keeping onlyClicks)), []) :=
  ⟨((state_file_read_back oddState).2.1 emptyFolder afterSave "odd.json" _ (by rfl)).2,
    (state_file_read_back oddState).2.2 clickFolder "clicks.json" .oneLine onlyClicks
      spaced_oneLine (by rfl)⟩

end AutoReply
