import AutoReply.ClickBoard
import AutoReply.Registry

/-!
What is kept of the rules and the clicks from one start to the next.
-/

namespace AutoReply

open AutoReply.Chat AutoReply.Rule

structure SavedState where
  states : SortedMap String String := .empty
  enabled : SortedMap String Bool := .empty
  clicks : SortedMap UserId UInt64 := .empty

namespace SavedState

def capture (registry : Registry) (board : ClickBoard) : SavedState :=
  ⟨registry.snapshotStates, registry.snapshotEnabled, board.counts⟩

/-- What applying a saved state did: the states were tried first, then the flags. -/
structure Applied where
  registry : Registry
  states : BulkReport
  enabled : BulkReport
  journal : Journal

def apply (saved : SavedState) (registry : Registry) : Applied :=
  let (tuned, states, notes) := registry.bulkSetStates saved.states.toHashMap
  let (toggled, enabled, otherNotes) := tuned.bulkSetEnabled saved.enabled.toHashMap
  ⟨toggled, states, enabled, notes ++ otherNotes⟩

def restate (saved : SavedState) (response : Response) : Response :=
  (Registry.entryFor saved.states.toHashMap response.name).elim response response.tuned

def retoggle (saved : SavedState) (response : Response) : Response :=
  (Registry.entryFor saved.enabled.toHashMap response.name).elim response response.setEnabled

def board (saved : SavedState) : ClickBoard :=
  ⟨saved.clicks⟩

end SavedState

end AutoReply
