import AutoReply.Proofs.Control.Commands
import AutoReply.Proofs.Dispatch.FirstMatch
import AutoReply.Proofs.Storage.Saves
import AutoReply.Service

/-!
Runs of a bot: commands and messages one after the other, with the saves they try.
-/

namespace AutoReply

open AutoReply.Chat AutoReply.Control AutoReply.Rule AutoReply.Storage

structure SaveAttempt where
  document : SavedState
  failure : Option StoreError

def Control.Command.attempt? (live : Live) (command : Command) : Option SaveAttempt :=
  if live.savesChanges then
    (command.change? live).map fun changed =>
      ⟨changed.capture, (live.storage.save changed.capture).2.1⟩
  else none

inductive Operation
  | command (command : Command)
  | message (platform : Platform) (luck : Luck) (event : MessageEvent)

structure Performed where
  operation : Operation
  earlier : Service
  reply? : Option CommandReply
  attempt? : Option SaveAttempt
  later : Service

namespace Operation

def perform (service : Service) : Operation → Performed
  | .command asked =>
      let (reply, live) := asked.perform service.live
      ⟨.command asked, service, some reply, asked.attempt? service.live, { service with live }⟩
  | .message platform luck event =>
      ⟨.message platform luck event, service, none, none, (service.handle platform luck event).2.1⟩

end Operation

def performAll : List Operation → Service → List Performed
  | [], _ => []
  | operation :: operations, service =>
      operation.perform service :: performAll operations (operation.perform service).later

def reached : List Operation → Service → Service
  | [], service => service
  | operation :: operations, service => reached operations (operation.perform service).later

theorem dispatch_settings (platform : Platform) (luck : Luck) (event : MessageEvent)
    (registry : Registry) :
    (dispatch platform luck event registry).registry.responses.map Response.settings =
      registry.responses.map Response.settings := by
  rcases exists_answers platform luck event registry with
    ⟨position, response, _, _, answers⟩ | ⟨_, answers⟩
  · rw [answers.checked, settings_checkedBefore]
  · rw [answers.checked, settings_checkedBefore]

theorem map_eq_of_settings {α : Type} (view : Response → α)
    (blind : ∀ left right, left.settings = right.settings → view left = view right) :
    ∀ earlier later : List Response,
      later.map Response.settings = earlier.map Response.settings →
        later.map view = earlier.map view := by
  intro earlier
  induction earlier with
  | nil =>
      intro later same
      rw [List.map_eq_nil_iff.mp same]
  | cons response rest ih =>
      intro later same
      obtain ⟨other, others, split, first, tail⟩ := List.map_eq_cons_iff.mp same
      subst split
      rw [List.map_cons, List.map_cons, blind other response first, ih others tail]

theorem state_eq_of_settings {left right : Response} (same : left.settings = right.settings) :
    left.state = right.state := by
  have kind : left.kind = right.kind := congrArg (fun settings => settings.2.2) same
  unfold Response.state
  rw [kind]

theorem capture_congr {earlier later : Registry}
    (same : later.responses.map Response.settings = earlier.responses.map Response.settings)
    (board : ClickBoard) : SavedState.capture later board = SavedState.capture earlier board := by
  have states := map_eq_of_settings (fun response => (response.name, response.state))
    (fun left right same =>
      Prod.ext (congrArg (fun settings => settings.1) same) (state_eq_of_settings same))
    earlier.responses later.responses same
  have enabled := map_eq_of_settings (fun response => (response.name, response.enabled))
    (fun left right same => congrArg (fun settings => (settings.1, settings.2.1)) same)
    earlier.responses later.responses same
  unfold SavedState.capture Registry.snapshotStates Registry.snapshotEnabled
  rw [states, enabled]

theorem live_handle (platform : Platform) (luck : Luck) (event : MessageEvent) (service : Service) :
    ∃ registry, (service.handle platform luck event).2.1.live = { service.live with registry } ∧
      registry.responses.map Response.settings =
        service.live.registry.responses.map Response.settings := by
  unfold Service.handle
  split
  · exact ⟨service.live.registry, rfl, rfl⟩
  · exact ⟨_, rfl, dispatch_settings ..⟩

namespace Control.Command

theorem attempt?_eq_none {live : Live} {command : Command} (saves : live.savesChanges = true)
    (untried : command.attempt? live = none) : command.change? live = none := by
  unfold attempt? at untried
  rw [if_pos saves] at untried
  exact Option.map_eq_none_iff.mp untried

theorem attempt?_eq_some {live : Live} {command : Command} {attempt : SaveAttempt}
    (tried : command.attempt? live = some attempt) :
    live.savesChanges = true ∧ ∃ changed, command.change? live = some changed ∧
      attempt = ⟨changed.capture, (live.storage.save changed.capture).2.1⟩ := by
  unfold attempt? at tried
  split at tried
  next saves =>
    obtain ⟨changed, found, same⟩ := Option.map_eq_some_iff.mp tried
    exact ⟨saves, changed, found, same.symm⟩
  next => contradiction

theorem storage_perform_of_untried {live : Live} {command : Command}
    (untried : command.attempt? live = none) :
    (command.perform live).2.storage = live.storage := by
  cases found : command.change? live with
  | none => rw [(refused_of_change? found).after]
  | some changed =>
      obtain ⟨registry, _, same⟩ := change?_eq_some found
      have keeps : live.savesChanges = false := by
        cases saves : live.savesChanges with
        | false => rfl
        | true =>
            rw [attempt?_eq_none saves untried] at found
            contradiction
      have kept : changed.savesChanges = false := by
        rw [same]
        exact keeps
      rw [(saves_of_change? found).after, (Live.saveChange_of_keeps kept).1, same]

end Control.Command

namespace Performed

/-- The operation has tried a save of the rules and clicks that it leaves, and its reply is an error
exactly when that failed. -/
structure Saved (performed : Performed) (attempt : SaveAttempt) : Prop where
  document : attempt.document = performed.later.live.capture
  storage : performed.later.live.storage =
    (performed.earlier.live.storage.save attempt.document).1
  failure : attempt.failure = (performed.earlier.live.storage.save attempt.document).2.1
  reply : ∃ reply, performed.reply? = some reply ∧ reply.isOk = attempt.failure.isNone ∧
    reply.storeError? = attempt.failure

structure Idle (performed : Performed) : Prop where
  capture : performed.later.live.capture = performed.earlier.live.capture
  reply : ∀ reply, performed.reply? = some reply → reply.isOk = false

end Performed

namespace Operation

theorem savesChanges_perform (service : Service) (operation : Operation) :
    (operation.perform service).later.live.savesChanges = service.live.savesChanges := by
  cases operation with
  | command command => exact command.savesChanges_perform service.live
  | message platform luck event =>
      obtain ⟨registry, same, _⟩ := live_handle platform luck event service
      show (service.handle platform luck event).2.1.live.savesChanges = _
      rw [same]

theorem storage_perform_of_untried {service : Service} {operation : Operation}
    (untried : (operation.perform service).attempt? = none) :
    (operation.perform service).later.live.storage = service.live.storage := by
  cases operation with
  | command command => exact Command.storage_perform_of_untried untried
  | message platform luck event =>
      obtain ⟨registry, same, _⟩ := live_handle platform luck event service
      show (service.handle platform luck event).2.1.live.storage = _
      rw [same]

theorem idle_of_untried {service : Service} {operation : Operation}
    (saves : service.live.savesChanges = true)
    (untried : (operation.perform service).attempt? = none) : (operation.perform service).Idle := by
  cases operation with
  | command command =>
      have refused := Command.refused_of_change? (Command.attempt?_eq_none saves untried)
      refine ⟨congrArg Live.capture refused.after, ?_⟩
      intro reply same
      rw [← Option.some.inj same]
      exact refused.isOk
  | message platform luck event =>
      obtain ⟨registry, same, settings⟩ := live_handle platform luck event service
      -- A dispatch changes the conditions only, which are not captured.
      refine ⟨?_, fun _ none => by contradiction⟩
      show (service.handle platform luck event).2.1.live.capture = _
      rw [same]
      exact capture_congr settings service.live.clicks

theorem saved_of_tried {service : Service} {operation : Operation} {attempt : SaveAttempt}
    (tried : (operation.perform service).attempt? = some attempt) :
    (operation.perform service).Saved attempt := by
  cases operation with
  | message platform luck event => contradiction
  | command command =>
      obtain ⟨saves, changed, found, rfl⟩ := Command.attempt?_eq_some tried
      obtain ⟨registry, _, same⟩ := Command.change?_eq_some found
      have storage : changed.storage = service.live.storage := by rw [same]
      have performed := Command.saves_of_change? found
      obtain ⟨after, failure⟩ := @Live.saveChange_of_saves changed (by rw [same]; exact saves)
      rw [storage] at after failure
      have later := performed.after.trans after
      refine ⟨?_, ?_, rfl, _, rfl, ?_, ?_⟩
      · exact (congrArg Live.capture later).symm
      · exact congrArg Live.storage later
      · exact performed.isOk.trans (congrArg Option.isNone failure)
      · exact performed.storeError.trans failure

theorem earlier_perform (service : Service) (operation : Operation) :
    (operation.perform service).earlier = service := by
  cases operation <;> rfl

end Operation

theorem reached_append (earlier later : List Operation) (service : Service) :
    reached (earlier ++ later) service = reached later (reached earlier service) := by
  induction earlier generalizing service with
  | nil => rfl
  | cons operation operations ih => exact ih _

theorem performAll_split {operations : List Operation} {service : Service} {before : List Performed}
    {performed : Performed} {after : List Performed}
    (split : performAll operations service = before ++ performed :: after) :
    ∃ earlier operation later, operations = earlier ++ operation :: later ∧
      performed = operation.perform (reached earlier service) ∧
      after = performAll later performed.later := by
  induction before generalizing operations service with
  | nil =>
      cases operations with
      | nil => contradiction
      | cons operation operations =>
          obtain ⟨first, rest⟩ := List.cons.inj split
          exact ⟨[], operation, operations, rfl, first.symm, by rw [← rest, first]⟩
  | cons other before ih =>
      cases operations with
      | nil => contradiction
      | cons operation operations =>
          obtain ⟨_, rest⟩ := List.cons.inj split
          obtain ⟨earlier, chosen, later, listed, same, others⟩ := ih rest
          exact ⟨operation :: earlier, chosen, later, by rw [listed]; rfl, same, others⟩

theorem savesChanges_reached (operations : List Operation) (service : Service) :
    (reached operations service).live.savesChanges = service.live.savesChanges := by
  induction operations generalizing service with
  | nil => rfl
  | cons operation operations ih =>
      exact (ih _).trans (operation.savesChanges_perform service)

theorem Operation.storage_perform (operation : Operation) (service : Service) :
    (operation.perform service).later.live.storage = service.live.storage.afterSaves
      ((operation.perform service).attempt?.toList.map SaveAttempt.document) := by
  cases tried : (operation.perform service).attempt? with
  | none => exact storage_perform_of_untried tried
  | some attempt =>
      have saved := saved_of_tried tried
      rw [saved.storage, earlier_perform]
      rfl

/-- The storage after a run is the storage after the saves that the run has tried. -/
theorem storage_reached (operations : List Operation) (service : Service) :
    (reached operations service).live.storage = service.live.storage.afterSaves
      (((performAll operations service).filterMap Performed.attempt?).map SaveAttempt.document) := by
  induction operations generalizing service with
  | nil => rfl
  | cons operation operations ih =>
      simp only [reached, performAll]
      rw [ih, operation.storage_perform]
      cases tried : (operation.perform service).attempt? with
      | none => rw [List.filterMap_cons_none tried]; rfl
      | some attempt => rw [List.filterMap_cons_some tried]; rfl

theorem reached_of_untried {operations : List Operation} {service : Service}
    (saves : service.live.savesChanges = true)
    (untried : ∀ performed ∈ performAll operations service, performed.attempt? = none) :
    (reached operations service).live.storage = service.live.storage ∧
      (reached operations service).live.capture = service.live.capture := by
  induction operations generalizing service with
  | nil => exact ⟨rfl, rfl⟩
  | cons operation operations ih =>
      have first := untried _ List.mem_cons_self
      have idle := Operation.idle_of_untried saves first
      have captured := idle.capture
      rw [Operation.earlier_perform] at captured
      obtain ⟨storage, capture⟩ := ih ((operation.savesChanges_perform service).trans saves)
        fun performed member => untried performed (List.mem_cons_of_mem _ member)
      exact ⟨storage.trans (Operation.storage_perform_of_untried first), capture.trans captured⟩

end AutoReply
