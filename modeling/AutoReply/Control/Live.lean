import AutoReply.SavedState
import AutoReply.Storage.Store

/-!
The state of a running bot that its operators and users change, and how a change is saved.
-/

namespace AutoReply.Control

open AutoReply.Chat AutoReply.Storage

structure Live where
  registry : Registry
  clicks : ClickBoard
  storage : Storage
  /-- The only user who may change the rules; without one, everybody may. -/
  owner : Option UserId
  /-- Every change is saved at once. -/
  savesChanges : Bool

/-- The answer to an operation, the state behind it, and what was noted. -/
structure Outcome (ε α : Type) where
  answer : Except ε α
  live : Live
  journal : Journal := []

namespace Live

def capture (live : Live) : SavedState :=
  .capture live.registry live.clicks

def save (live : Live) : Live × Option StoreError × Journal :=
  let (storage, failure, journal) := live.storage.save live.capture
  ({ live with storage }, failure, journal)

def saveChange (live : Live) : Live × Option StoreError × Journal :=
  if live.savesChanges then live.save else (live, none, [])

def answerSaved {ε α : Type} (live : Live) (journal : Journal) (failed : StoreError → ε)
    (answer : α) : Outcome ε α :=
  let (live, failure, notes) := live.saveChange
  match failure with
  | none => ⟨.ok answer, live, journal ++ notes⟩
  | some error => ⟨.error (failed error), live, journal ++ notes⟩

end Live

end AutoReply.Control
