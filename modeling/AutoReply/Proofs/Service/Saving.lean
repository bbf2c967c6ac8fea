import AutoReply.Proofs.Service.Runs

/-!
What is stored while a bot runs: the rules and clicks as they are, unless the latest save has failed
and its reply has said so.
-/

namespace AutoReply

open AutoReply.Chat AutoReply.Control AutoReply.Rule AutoReply.Storage

def Operation.Keeps (before after : SavedState) : Operation → Prop
  | .command (.click _ _ _) => after.states = before.states ∧ after.enabled = before.enabled
  | .command _ => after.clicks = before.clicks
  | .message _ _ _ => after = before

structure LatestAttempt (run : List Performed) (performed : Performed) (attempt : SaveAttempt) :
    Prop where
  tried : performed.attempt? = some attempt
  latest : ∃ before after, run = before ++ performed :: after ∧
    ∀ other ∈ after, other.attempt? = none

theorem exists_latestAttempt {run : List Performed} {performed : Performed} {attempt : SaveAttempt}
    (member : performed ∈ run) (tried : performed.attempt? = some attempt) :
    ∃ latest latestAttempt, LatestAttempt run latest latestAttempt := by
  induction run generalizing performed attempt with
  | nil => contradiction
  | cons first rest ih =>
      -- The latest save of the rest, if the rest has one, is the latest of all.
      by_cases later : ∃ other ∈ rest, other.attempt? ≠ none
      · obtain ⟨other, inRest, otherTried⟩ := later
        obtain ⟨otherAttempt, found⟩ := Option.ne_none_iff_exists'.mp otherTried
        obtain ⟨latest, latestAttempt, latestTried, before, after, split, untried⟩ :=
          ih inRest found
        exact ⟨latest, latestAttempt, latestTried, first :: before, after, by rw [split]; rfl,
          untried⟩
      · have untried : ∀ other ∈ rest, other.attempt? = none := by
          intro other inRest
          cases found : other.attempt? with
          | none => rfl
          | some otherAttempt => exact absurd ⟨other, inRest, by simp [found]⟩ later
        rcases List.mem_cons.mp member with same | inRest
        · exact ⟨first, attempt, same ▸ tried, [], rest, rfl, untried⟩
        · rw [untried performed inRest] at tried
          contradiction

theorem dependable_reached {service : Service} (dependable : service.live.storage.Dependable)
    (operations : List Operation) :
    (reached operations service).live.storage.Dependable := by
  rw [storage_reached]
  exact dependable.afterSaves _

theorem Operation.keeps_perform {service : Service} {operation : Operation} {attempt : SaveAttempt}
    (tried : (operation.perform service).attempt? = some attempt) :
    operation.Keeps service.live.capture attempt.document := by
  cases operation with
  | message platform luck event => contradiction
  | command command =>
      obtain ⟨_, changed, found, rfl⟩ := Command.attempt?_eq_some tried
      obtain ⟨registry, accepted, rfl⟩ := Command.change?_eq_some found
      cases command with
      | click clicker member memberName =>
          rw [← Option.some.inj accepted]
          exact ⟨rfl, rfl⟩
      | setState target state => rfl
      | enable target => rfl
      | disable target => rfl

structure UpToDate (service : Service) (operations : List Operation) : Prop where
  /-- Once a save was tried, the latest one has failed, and its reply says so, or what is stored is
  what is live. -/
  latest : (∃ performed ∈ performAll operations service, performed.attempt? ≠ none) →
    ∃ performed attempt, LatestAttempt (performAll operations service) performed attempt ∧
      ((∃ error, attempt.failure = some error ∧
          performed.reply?.bind CommandReply.storeError? = some error) ∨
        (attempt.failure = none ∧ (reached operations service).live.storage.stored =
          some (reached operations service).live.capture))
  accepted : ∀ performed ∈ performAll operations service, ∀ reply, performed.reply? = some reply →
    reply.isOk = true →
      performed.later.live.storage.stored = some performed.later.live.capture
  documents : ∀ performed ∈ performAll operations service, ∀ attempt,
    performed.attempt? = some attempt → attempt.document = performed.later.live.capture ∧
      performed.operation.Keeps performed.earlier.live.capture attempt.document
  untried : ∀ performed ∈ performAll operations service, performed.attempt? = none →
    performed.later.live.capture = performed.earlier.live.capture

section

variable {service : Service} {operations : List Operation}

theorem stored_of_saved {operation : Operation} {attempt : SaveAttempt}
    (dependable : service.live.storage.Dependable)
    (tried : (operation.perform service).attempt? = some attempt)
    (succeeded : attempt.failure = none) :
    (operation.perform service).later.live.storage.stored =
      some (operation.perform service).later.live.capture := by
  have saved := Operation.saved_of_tried tried
  have storage := saved.storage
  have failure := saved.failure
  rw [Operation.earlier_perform] at storage failure
  rw [storage, ← saved.document]
  rcases dependable.savesOrKeeps attempt.document with ⟨_, stored⟩ | ⟨error, failed, _⟩
  · exact stored
  · rw [failure, failed] at succeeded
    contradiction

theorem mem_performAll {performed : Performed} (member : performed ∈ performAll operations service) :
    ∃ (earlier : List Operation) (operation : Operation),
      performed = operation.perform (reached earlier service) := by
  obtain ⟨before, after, split⟩ := List.append_of_mem member
  obtain ⟨earlier, operation, _, _, same, _⟩ := performAll_split split
  exact ⟨earlier, operation, same⟩

theorem operation_perform (operation : Operation) :
    (operation.perform service).operation = operation := by
  cases operation <;> rfl

theorem reached_of_latest (saves : service.live.savesChanges = true) {performed : Performed}
    {attempt : SaveAttempt}
    (latest : LatestAttempt (performAll operations service) performed attempt) :
    (∃ (earlier : List Operation) (operation : Operation),
      performed = operation.perform (reached earlier service)) ∧
    (reached operations service).live.storage = performed.later.live.storage ∧
    (reached operations service).live.capture = performed.later.live.capture := by
  obtain ⟨tried, before, after, split, untried⟩ := latest
  obtain ⟨earlier, operation, later, listed, rfl, rfl⟩ := performAll_split split
  have savesStill := (savesChanges_reached earlier service).trans saves
  have last : reached operations service =
      reached later (operation.perform (reached earlier service)).later := by
    rw [listed, reached_append]
    rfl
  rw [last]
  exact ⟨⟨earlier, operation, rfl⟩,
    reached_of_untried ((operation.savesChanges_perform _).trans savesStill) untried⟩

theorem latest_failed_or_stored (saves : service.live.savesChanges = true)
    (dependable : service.live.storage.Dependable) {performed : Performed} {attempt : SaveAttempt}
    (latest : LatestAttempt (performAll operations service) performed attempt) :
    (∃ error, attempt.failure = some error ∧
      performed.reply?.bind CommandReply.storeError? = some error) ∨
    (attempt.failure = none ∧ (reached operations service).live.storage.stored =
      some (reached operations service).live.capture) := by
  obtain ⟨⟨earlier, operation, rfl⟩, storage, capture⟩ := reached_of_latest saves latest
  cases failed : attempt.failure with
  | some error =>
      left
      obtain ⟨reply, replied, _, handedOn⟩ := (Operation.saved_of_tried latest.tried).reply
      refine ⟨error, rfl, ?_⟩
      rw [replied, Option.bind_some, handedOn, failed]
  | none =>
      right
      refine ⟨rfl, ?_⟩
      rw [storage, capture]
      exact stored_of_saved (dependable_reached dependable earlier) latest.tried failed

theorem stored_of_isOk (saves : service.live.savesChanges = true)
    (dependable : service.live.storage.Dependable) {performed : Performed} {reply : CommandReply}
    (member : performed ∈ performAll operations service)
    (replied : performed.reply? = some reply) (ok : reply.isOk = true) :
    performed.later.live.storage.stored = some performed.later.live.capture := by
  obtain ⟨earlier, operation, rfl⟩ := mem_performAll member
  have savesStill := (savesChanges_reached earlier service).trans saves
  cases tried : (operation.perform (reached earlier service)).attempt? with
  | none =>
      rw [(Operation.idle_of_untried savesStill tried).reply reply replied] at ok
      contradiction
  | some attempt =>
      obtain ⟨other, otherReplied, otherOk, _⟩ := (Operation.saved_of_tried tried).reply
      rw [replied] at otherReplied
      rw [← Option.some.inj otherReplied, ok] at otherOk
      refine stored_of_saved (dependable_reached dependable earlier) tried ?_
      exact Option.isNone_iff_eq_none.mp otherOk.symm

theorem document_eq_capture {performed : Performed} {attempt : SaveAttempt}
    (member : performed ∈ performAll operations service)
    (tried : performed.attempt? = some attempt) :
    attempt.document = performed.later.live.capture ∧
      performed.operation.Keeps performed.earlier.live.capture attempt.document := by
  obtain ⟨earlier, operation, rfl⟩ := mem_performAll member
  refine ⟨(Operation.saved_of_tried tried).document, ?_⟩
  rw [operation_perform, Operation.earlier_perform]
  exact Operation.keeps_perform tried

theorem capture_of_untried (saves : service.live.savesChanges = true) {performed : Performed}
    (member : performed ∈ performAll operations service) (untried : performed.attempt? = none) :
    performed.later.live.capture = performed.earlier.live.capture := by
  obtain ⟨earlier, operation, rfl⟩ := mem_performAll member
  exact (Operation.idle_of_untried ((savesChanges_reached earlier service).trans saves)
    untried).capture

theorem untried_of_keeps (keeps : service.live.savesChanges = false) {performed : Performed}
    (member : performed ∈ performAll operations service) : performed.attempt? = none := by
  obtain ⟨earlier, operation, rfl⟩ := mem_performAll member
  have keepsStill := (savesChanges_reached earlier service).trans keeps
  cases operation with
  | message platform luck event => rfl
  | command command =>
      show command.attempt? (reached earlier service).live = none
      unfold Command.attempt?
      rw [keepsStill]
      rfl

theorem storage_of_keeps (keeps : service.live.savesChanges = false) :
    (reached operations service).live.storage = service.live.storage := by
  have none : (performAll operations service).filterMap Performed.attempt? = [] :=
    List.filterMap_eq_nil_iff.mpr fun _ => untried_of_keeps keeps
  rw [storage_reached, none]
  rfl

end

/-- The store is never silently stale: with saving on, whatever saves fail, what is stored is what is
live, or the latest save has failed and its reply has said so; with saving off, the store is left
alone. The saves counted here are all there are: the storage of the run is the one after them. -/
theorem store_never_stale (service : Service) (operations : List Operation)
    (dependable : service.live.storage.Dependable) :
    (service.live.savesChanges = true → UpToDate service operations) ∧
    (service.live.savesChanges = false →
      (reached operations service).live.storage = service.live.storage) ∧
    (reached operations service).live.storage = service.live.storage.afterSaves
      (((performAll operations service).filterMap Performed.attempt?).map
        SaveAttempt.document) := by
  refine ⟨?_, storage_of_keeps, storage_reached operations service⟩
  intro saves
  constructor
  case latest =>
    rintro ⟨performed, member, tried⟩
    obtain ⟨attempt, found⟩ := Option.ne_none_iff_exists'.mp tried
    obtain ⟨latest, latestAttempt, isLatest⟩ := exists_latestAttempt member found
    exact ⟨latest, latestAttempt, isLatest, latest_failed_or_stored saves dependable isLatest⟩
  case accepted =>
    intro performed member reply replied ok
    exact stored_of_isOk saves dependable member replied ok
  case documents =>
    intro performed member attempt tried
    exact document_eq_capture member tried
  case untried =>
    intro performed member untried
    exact capture_of_untried saves member untried

def forgetfulBot : Service :=
  .fresh {} ⟨[.plain "tina" (.predicate "any" fun _ _ => true) .echo]⟩
    ⟨⟨[], []⟩, .memory
      { saveFault := fun attempt => if attempt = 1 then some (.io "state.json" "full") else none }⟩

def forgetfulRun : List Operation :=
  [.command (.click "okabe" ⟨42⟩ "tina"), .command (.disable "TINA"),
    .command (.setState "tina" "react")]

theorem forgetfulBot_never_stale :
    forgetfulBot.live.storage.Dependable ∧
      ((performAll forgetfulRun forgetfulBot).map fun performed =>
        (performed.attempt?.isSome, performed.reply?.any CommandReply.isOk)) =
          [(true, true), (true, false), (false, false)] ∧
      UpToDate forgetfulBot forgetfulRun := by
  have dependable : forgetfulBot.live.storage.Dependable := Storage.dependable_memory _ _
  refine ⟨dependable, by decide, ?_⟩
  exact (store_never_stale forgetfulBot forgetfulRun dependable).1 rfl

end AutoReply
