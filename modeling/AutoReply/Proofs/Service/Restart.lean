import AutoReply.Proofs.Registry.Restoring
import AutoReply.Proofs.Service.Saving

/-!
Starting again from what was saved: a bot with the same rules, given the storage of one whose
commands have been saved, takes up its settings and clicks.
-/

namespace AutoReply

open AutoReply.Chat AutoReply.Control AutoReply.Rule AutoReply.Storage

def Service.opened (restores : Bool) (settings : Settings) (registry : Registry)
    (storage : Storage) : Service :=
  if restores then (Service.fresh settings registry storage).restore.2.1
  else .fresh settings registry storage

theorem Service.restore_eq_adopt {service : Service} {saved : SavedState}
    (loaded : service.live.storage.load.1 = .ok (some saved)) :
    service.restore.1 = true ∧ service.restore.2.1 = (service.adopt saved).1 := by
  unfold restore
  generalize service.live.storage.load = found at loaded ⊢
  obtain ⟨answer, notes⟩ := found
  simp only at loaded
  subst loaded
  exact ⟨rfl, rfl⟩

theorem Service.restore_of_loaded {service : Service} {saved : SavedState}
    (loaded : service.live.storage.load.1 = .ok (some saved)) :
    service.restore.1 = true ∧ service.restore.2.1.live = { service.live with
      registry := (saved.apply service.live.registry).registry, clicks := saved.board } := by
  obtain ⟨done, adopted⟩ := restore_eq_adopt loaded
  exact ⟨done, congrArg Service.live adopted⟩

theorem Service.restore_of_unloaded {service : Service}
    (unloaded : ∀ saved, service.live.storage.load.1 ≠ .ok (some saved)) :
    service.restore.1 = false ∧ service.restore.2.1 = service := by
  unfold restore
  generalize service.live.storage.load = found at unloaded ⊢
  rcases found with ⟨_ | _ | saved, notes⟩
  · exact ⟨rfl, rfl⟩
  · exact ⟨rfl, rfl⟩
  · exact absurd rfl (unloaded saved)

section

variable (restores : Bool) (settings : Settings) (registry : Registry) (storage : Storage)

theorem Service.live_opened :
    ∃ tuned clicks, (Service.opened restores settings registry storage).live =
        { (Service.fresh settings registry storage).live with registry := tuned, clicks } ∧
      Registry.Retuned registry tuned := by
  unfold opened
  cases restores with
  | false => exact ⟨registry, .empty, rfl, Registry.Retuned.refl registry⟩
  | true =>
      rw [if_pos rfl]
      by_cases loaded : ∃ saved, storage.load.1 = .ok (some saved)
      · obtain ⟨saved, found⟩ := loaded
        have live := (@restore_of_loaded (.fresh settings registry storage) saved found).2
        exact ⟨_, _, live, SavedState.retuned_apply saved registry⟩
      · have same := (@restore_of_unloaded (.fresh settings registry storage)
          fun saved found => loaded ⟨saved, found⟩).2
        rw [same]
        exact ⟨registry, .empty, rfl, Registry.Retuned.refl registry⟩

end

theorem retuned_reached (commands : List Command) (service : Service) :
    Registry.Retuned service.live.registry
      (reached (commands.map .command) service).live.registry := by
  induction commands generalizing service with
  | nil => exact Registry.Retuned.refl _
  | cons command commands ih =>
      exact (command.retuned_perform service.live).trans
        (ih ((Operation.command command).perform service).later)

/-- When saves work, the storage of a run with a save in it is loaded as what is live. -/
theorem load_reached {service : Service} {operations : List Operation}
    (saves : service.live.savesChanges = true) (working : service.live.storage.Working)
    {performed : Performed} {attempt : SaveAttempt}
    (member : performed ∈ performAll operations service)
    (tried : performed.attempt? = some attempt) :
    (reached operations service).live.storage.load.1 =
      .ok (some (reached operations service).live.capture) := by
  obtain ⟨latest, latestAttempt, isLatest⟩ := exists_latestAttempt member tried
  obtain ⟨⟨earlier, operation, rfl⟩, storage, capture⟩ := reached_of_latest saves isLatest
  have saved := Operation.saved_of_tried isLatest.tried
  have stillWorking : (reached earlier service).live.storage.Working := by
    rw [storage_reached]
    exact working.afterSaves _
  have later := saved.storage
  rw [Operation.earlier_perform] at later
  rw [storage, capture, later, ← saved.document]
  exact (stillWorking [] latestAttempt.document).2

/-- A restart is not noticed: once a command has been saved, a second bot with the same definitions
and the same store restores the summaries, the chances to the bit and the clicks of the first, and
leaves out the states of the plain rules only. -/
theorem restart_equivalent (restores : Bool) (settings other : Settings) (registry : Registry)
    (storage : Storage) (commands : List Command)
    (distinct : (registry.responses.map Response.name).Nodup)
    (probabilities : ∀ response ∈ registry.responses, response.HasProbability)
    (saves : settings.state.saveOnChange = true) (working : storage.Working)
    (saved : ∃ performed ∈ performAll (commands.map .command)
        (.opened restores settings registry storage),
      ∃ attempt, performed.attempt? = some attempt ∧ attempt.failure = none) :
    let first := reached (commands.map .command) (.opened restores settings registry storage)
    let second := (Service.fresh other registry first.live.storage).restore
    second.1 = true ∧
    second.2.1.live.registry.summaries = first.live.registry.summaries ∧
    second.2.1.live.registry.responses.map Response.chance? =
      first.live.registry.responses.map Response.chance? ∧
    (∀ member, second.2.1.live.clicks.count member = first.live.clicks.count member) ∧
    second.2.1.live.storage.load.1 = .ok (some second.2.1.live.capture) ∧
    ∀ document, first.live.storage.load.1 = .ok (some document) →
      (document.apply registry).states.skipped =
          (registry.responses.filter Response.isPlain).map Response.unsupported ∧
        (document.apply registry).enabled.skipped = [] := by
  intro first second
  obtain ⟨performed, member, attempt, tried, _⟩ := saved
  obtain ⟨tuned, clicks, opened, openedRetuned⟩ :=
    Service.live_opened restores settings registry storage
  have loaded : first.live.storage.load.1 = .ok (some first.live.capture) := by
    refine load_reached ?_ ?_ member tried
    · rw [opened]
      exact saves
    · rw [opened]
      exact working
  have retuned : Registry.Retuned registry first.live.registry := by
    have opening : (Service.opened restores settings registry storage).live.registry = tuned := by
      rw [opened]
    exact (opening ▸ openedRetuned).trans (retuned_reached commands _)
  obtain ⟨done, live⟩ :=
    @Service.restore_of_loaded (.fresh other registry first.live.storage) _ loaded
  have sameRegistry : second.2.1.live.registry = first.live.registry :=
    (congrArg Live.registry live).trans
      (SavedState.registry_apply_capture first.live.clicks retuned distinct probabilities)
  have sameClicks : second.2.1.live.clicks = first.live.clicks :=
    (congrArg Live.clicks live).trans rfl
  have sameStorage : second.2.1.live.storage = first.live.storage :=
    (congrArg Live.storage live).trans rfl
  have sameCapture : second.2.1.live.capture = first.live.capture := by
    unfold Live.capture
    rw [sameRegistry, sameClicks]
  refine ⟨done, ?_, ?_, ?_, ?_, ?_⟩
  · rw [sameRegistry]
  · rw [sameRegistry]
  · intro member
    rw [sameClicks]
  · rw [sameStorage, sameCapture]
    exact loaded
  · intro document found
    rw [loaded] at found
    rw [← Option.some.inj (Except.ok.inj found)]
    exact SavedState.skipped_apply_capture first.live.clicks retuned distinct probabilities

def tinaRules : Registry :=
  ⟨[.plain "mention" (.predicate "any" fun _ _ => true) .echo,
    .sendOrReact "tina" (.predicate "any" fun _ _ => true) "Tina!" ⟨1⟩ .message,
    { name := "Tina", trigger := .predicate "any" fun _ _ => true
      kind := .randomChance .echo (.finite false ⟨1022 * Number.leadingBit, by decide⟩) }]⟩

def tinaCommands : List Command :=
  [.setState "all" "react", .disable "Tina", .setState "tina" "0.25", .click "okabe" ⟨42⟩ "tina"]

def emptyMemory : Storage :=
  ⟨⟨[], []⟩, .memory {}⟩

theorem tinaRules_restarted :
    (tinaRules.responses.map Response.name).Nodup ∧
    (∀ response ∈ tinaRules.responses, response.HasProbability) ∧ emptyMemory.Working ∧
    let first := reached (tinaCommands.map .command) (.opened false {} tinaRules emptyMemory)
    let second := (Service.fresh {} tinaRules first.live.storage).restore
    second.1 = true ∧ second.2.1.live.registry.summaries = first.live.registry.summaries := by
  have distinct : (tinaRules.responses.map Response.name).Nodup := by decide
  have probabilities : ∀ response ∈ tinaRules.responses, response.HasProbability := by
    intro response member chance found
    simp only [tinaRules, Response.plain, Response.sendOrReact, List.mem_cons, List.not_mem_nil,
      or_false] at member
    rcases member with rfl | rfl | rfl
    · contradiction
    · contradiction
    · rw [← Option.some.inj found]
      decide
  have working : emptyMemory.Working := Storage.working_memory _ rfl fun _ => rfl
  have restarted := restart_equivalent false {} {} tinaRules emptyMemory tinaCommands distinct
    probabilities rfl working ⟨_, List.mem_cons_self, _, rfl, rfl⟩
  exact ⟨distinct, probabilities, working, restarted.1, restarted.2.1⟩

end AutoReply
