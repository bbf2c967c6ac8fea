import AutoReply.Proofs.Control.Requests
import AutoReply.Proofs.Service.Restart

/-!
Clicks while a bot runs. They are counted in words of 64 bits, so that a member is clicked once more
with every click until the largest word is reached.
-/

namespace AutoReply

open AutoReply.Chat AutoReply.Control AutoReply.Rule AutoReply.Storage

namespace ClickBoard

def Counts (board : ClickBoard) (clicked : List UserId) : Prop :=
  ∀ member, board.count member = UInt64.ofNat (clicked.count member)

theorem counts_empty : empty.Counts [] :=
  fun _ => rfl

theorem count_click (board : ClickBoard) (member other : UserId) :
    (board.click member).count other =
      if other = member then board.count member + 1 else board.count other := by
  unfold click count
  rw [SortedMap.lookup_insert]
  split <;> rfl

theorem Counts.click {board : ClickBoard} {clicked : List UserId}
    (counts : board.Counts clicked) (member : UserId) :
    (board.click member).Counts (clicked ++ [member]) := by
  intro other
  rw [count_click, List.count_append, List.count_singleton]
  by_cases same : other = member
  · simp [same, counts member, UInt64.ofNat_add]
  · have unlike : (member == other) = false := beq_false_of_ne (Ne.symm same)
    simp [same, unlike, counts other]

theorem count_foldl_click (board : ClickBoard) (clicked : List UserId) (member : UserId) :
    (clicked.foldl click board).count member =
      board.count member + UInt64.ofNat (clicked.count member) := by
  induction clicked generalizing board with
  | nil => simp
  | cons other clicked ih =>
      rw [List.foldl_cons, ih, count_click]
      by_cases same : member = other
      · subst same
        rw [if_pos rfl, List.count_cons_self, UInt64.ofNat_add, UInt64.add_assoc,
          UInt64.add_comm (UInt64.ofNat _)]
        rfl
      · rw [if_neg same, List.count_cons_of_ne (Ne.symm same)]

end ClickBoard

namespace Operation

def clicked? : Operation → Option UserId
  | .command (.click _ member _) => some member
  | _ => none

theorem live_perform (service : Service) (operation : Operation) : ∃ registry storage,
    (operation.perform service).later.live =
      { service.live with
        registry
        clicks := operation.clicked?.elim service.live.clicks service.live.clicks.click
        storage } := by
  cases operation with
  | message platform luck event =>
      obtain ⟨registry, same, _⟩ := live_handle platform luck event service
      exact ⟨registry, service.live.storage, same⟩
  | command command =>
      have clicks : (Operation.command command).clicked?.elim service.live.clicks
          service.live.clicks.click = command.clicks service.live := by
        cases command <;> rfl
      rw [clicks]
      cases found : command.change? service.live with
      | some changed =>
          obtain ⟨registry, _, rfl⟩ := Command.change?_eq_some found
          exact ⟨registry, _,
            (Command.saves_of_change? found).after.trans (Live.rest_saveChange _)⟩
      | none =>
          have unclicked : command.clicks service.live = service.live.clicks := by
            cases command with
            | click clicker member memberName => contradiction
            | _ => rfl
          rw [unclicked]
          exact ⟨_, _, (Command.refused_of_change? found).after⟩

theorem clicks_perform (service : Service) (operation : Operation) :
    (operation.perform service).later.live.clicks =
      operation.clicked?.elim service.live.clicks service.live.clicks.click := by
  obtain ⟨registry, storage, same⟩ := operation.live_perform service
  rw [same]

end Operation

def clicksOn (member : UserId) (operations : List Operation) : Nat :=
  (operations.filterMap Operation.clicked?).count member

theorem clicks_reached (operations : List Operation) (service : Service) :
    (reached operations service).live.clicks =
      (operations.filterMap Operation.clicked?).foldl ClickBoard.click service.live.clicks := by
  induction operations generalizing service with
  | nil => rfl
  | cons operation operations ih =>
      rw [reached, ih, operation.clicks_perform]
      cases clicked : operation.clicked? with
      | none => rw [List.filterMap_cons_none clicked, Option.elim_none]
      | some member =>
          rw [List.filterMap_cons_some clicked, Option.elim_some, List.foldl_cons]

theorem count_reached (operations : List Operation) (service : Service) (member : UserId) :
    ((reached operations service).live.clicks.count member).toNat =
      ((service.live.clicks.count member).toNat + clicksOn member operations) % 2 ^ 64 := by
  rw [clicks_reached, ClickBoard.count_foldl_click, UInt64.toNat_add]
  simp [clicksOn]

/-- What a click counts, and for whom. The reply has the new count, or the error of a save. -/
structure CountsClick (performed : Performed) : Prop where
  others : ∀ other, performed.operation.clicked? ≠ some other →
    performed.later.live.clicks.count other = performed.earlier.live.clicks.count other
  clicked : ∀ member, performed.operation.clicked? = some member →
    performed.later.live.clicks.count member = performed.earlier.live.clicks.count member + 1
  reply : ∀ clicker member memberName,
    performed.operation = .command (.click clicker member memberName) →
      performed.reply? = some (.click (.ok (.untitled (clickText clicker memberName
        (performed.later.live.clicks.count member))))) ∨
      ∃ error, performed.reply? = some (.click (.error (.notSaved error)))

theorem countsClick_perform (service : Service) (operation : Operation) :
    CountsClick (operation.perform service) := by
  have clicks := operation.clicks_perform service
  constructor
  case others =>
    intro other unclicked
    rw [operation_perform] at unclicked
    rw [clicks, Operation.earlier_perform]
    cases found : operation.clicked? with
    | none => rfl
    | some member =>
        have different : other ≠ member := by
          rintro rfl
          exact unclicked found
        rw [Option.elim_some, ClickBoard.count_click, if_neg different]
  case clicked =>
    intro member found
    rw [operation_perform] at found
    rw [clicks, Operation.earlier_perform, found, Option.elim_some, ClickBoard.count_click,
      if_pos rfl]
  case reply =>
    intro clicker member memberName asked
    rw [operation_perform] at asked
    subst asked
    rw [clicks]
    simp only [Operation.perform, Command.perform, Live.click, Live.answer_answerSaved]
    cases Live.saveChange _ with
    | mk after rest =>
        obtain ⟨failure, journal⟩ := rest
        cases failure with
        | none => exact .inl rfl
        | some error => exact .inr ⟨error, rfl⟩

theorem next_of_fits {operations : List Operation} {service : Service} {member : UserId}
    (fits : (service.live.clicks.count member).toNat + clicksOn member operations < 2 ^ 64)
    {performed : Performed} (inside : performed ∈ performAll operations service)
    (clicked : performed.operation.clicked? = some member) :
    (performed.later.live.clicks.count member).toNat =
      (performed.earlier.live.clicks.count member).toNat + 1 := by
  obtain ⟨before, after, split⟩ := List.append_of_mem inside
  obtain ⟨earlier, operation, later, listed, rfl, _⟩ := performAll_split split
  have next := (countsClick_perform (reached earlier service) operation).clicked member clicked
  have counted := count_reached earlier service member
  rw [operation_perform] at clicked
  have clicks : clicksOn member operations =
      clicksOn member earlier + 1 + clicksOn member later := by
    simp only [clicksOn, listed, List.filterMap_append, List.filterMap_cons_some clicked,
      List.count_append, List.count_cons_self]
    omega
  have one : (1 : UInt64).toNat = 1 := rfl
  rw [next, Operation.earlier_perform, UInt64.toNat_add, one]
  omega

def SavedState.timesClicked (saved : SavedState) (member : UserId) : Nat :=
  ((saved.clicks.lookup member).getD 0).toNat

/-- After a restart, clicks add to the saved counts, and a count is what is saved next. None is
lost before the largest word is reached; there the count starts again at zero. -/
theorem clicks_lost_past_largest_word_only {service : Service} {saved : SavedState}
    (loaded : service.live.storage.load.1 = .ok (some saved)) (operations : List Operation) :
    let restored := service.restore.2.1
    let last := (reached operations restored).live
    (∀ performed ∈ performAll operations restored, CountsClick performed) ∧
      ∀ member,
        let total := saved.timesClicked member + clicksOn member operations
        last.capture.timesClicked member = (last.clicks.count member).toNat ∧
          (last.clicks.count member).toNat = total % 2 ^ 64 ∧
          (total < 2 ^ 64 →
            (last.clicks.count member).toNat = total ∧
              ∀ performed ∈ performAll operations restored,
                performed.operation.clicked? = some member →
                  (performed.later.live.clicks.count member).toNat =
                    (performed.earlier.live.clicks.count member).toNat + 1) := by
  intro restored last
  have start (member : UserId) :
      (restored.live.clicks.count member).toNat = saved.timesClicked member := by
    have live := (Service.restore_of_loaded loaded).2
    have board : restored.live.clicks = saved.board := congrArg Live.clicks live
    rw [board]
    rfl
  refine ⟨fun performed member => ?_, fun member => ⟨rfl, ?_, fun small => ⟨?_, ?_⟩⟩⟩
  · obtain ⟨earlier, operation, rfl⟩ := mem_performAll member
    exact countsClick_perform _ operation
  · rw [count_reached, start]
  · rw [count_reached, start, Nat.mod_eq_of_lt small]
  · intro performed inside clicked
    exact next_of_fits (by rwa [start]) inside clicked

def popularMember : SavedState where
  clicks := .ofList [(⟨7⟩, 18446744073709551614), (⟨8⟩, 5)]

def popularService (saved : SavedState) : Service :=
  .fresh {} ⟨[]⟩ ⟨⟨[], []⟩, .memory { content := some saved }⟩

def popularClicks : List Operation :=
  [.command (.click "okabe" ⟨8⟩ "mayuri"), .command (.click "okabe" ⟨7⟩ "kurisu"),
    .command (.click "daru" ⟨8⟩ "mayuri")]

theorem popularMember_counted :
    let last := (reached popularClicks (popularService popularMember).restore.2.1).live
    (popularService popularMember).live.storage.load.1 = .ok (some popularMember) ∧
      (last.clicks.count ⟨7⟩).toNat = 18446744073709551615 ∧
      (last.clicks.count ⟨8⟩).toNat = 7 ∧ last.capture.timesClicked ⟨7⟩ = 18446744073709551615 := by
  intro last
  have loaded : (popularService popularMember).live.storage.load.1 = .ok (some popularMember) := rfl
  have all := (clicks_lost_past_largest_word_only loaded popularClicks).2
  obtain ⟨saved, _, small⟩ := all ⟨7⟩
  obtain ⟨count, _⟩ := small (by decide)
  exact ⟨loaded, count, ((all ⟨8⟩).2.2 (by decide)).1, saved.trans count⟩

def CountsEveryClick : Prop :=
  ∀ (service : Service) (saved : SavedState) (operations : List Operation) (member : UserId),
    service.live.storage.load.1 = .ok (some saved) →
      ((reached operations service.restore.2.1).live.clicks.count member).toNat =
        saved.timesClicked member + clicksOn member operations

theorem not_countsEveryClick : ¬ CountsEveryClick := by
  intro counts
  have sum := counts (popularService popularMember) popularMember
    [.command (.click "okabe" ⟨7⟩ "kurisu"), .command (.click "okabe" ⟨7⟩ "kurisu")] ⟨7⟩ rfl
  revert sum
  decide

end AutoReply
