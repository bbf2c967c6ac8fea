import AutoReply.Proofs.Registry.Bulk
import AutoReply.Proofs.Rule.Tuning
import AutoReply.Proofs.Service.Restart

/-!
Restoring. Without a saved state nothing happens. With one, the clicks become those of the document,
each rule follows its own entries, and restoring again changes nothing.
-/

namespace AutoReply

open AutoReply.Chat AutoReply.Control AutoReply.Rule AutoReply.Storage

open Registry

namespace SavedState

/-- A rule before and after a document has been applied. It takes the text and the flag that are
assigned to its name; a text that it does not accept leaves its setting. -/
structure Restored (saved : SavedState) (earlier later : Response) : Prop where
  rest : later = { earlier with kind := later.kind, enabled := later.enabled }
  state :
    (∃ text, Assigns saved.states.entries earlier.name (some text) ∧
      ResponseKind.Takes text earlier.kind later.kind) ∨
    ((∀ text, Assigns saved.states.entries earlier.name (some text) →
      ∀ next, ¬ ResponseKind.Takes text earlier.kind next) ∧ later.kind = earlier.kind)
  flag :
    Assigns saved.enabled.entries earlier.name (some later.enabled) ∨
    (Assigns saved.enabled.entries earlier.name none ∧ later.enabled = earlier.enabled)

structure AgreeOn (name : String) (saved other : SavedState) : Prop where
  states : ∀ value,
    Assigns other.states.entries name value ↔ Assigns saved.states.entries name value
  enabled : ∀ value,
    Assigns other.enabled.entries name value ↔ Assigns saved.enabled.entries name value

def seed (saved : SavedState) (response : Response) : Response :=
  saved.retoggle (saved.restate response)

theorem registry_seed (saved : SavedState) (registry : Registry) :
    (saved.apply registry).registry = ⟨registry.responses.map saved.seed⟩ := by
  rw [registry_apply, registry_bulkSetEnabled, registry_bulkSetStates, List.map_map]
  rfl

theorem restate_cases (saved : SavedState) (response : Response) :
    (∃ text next, Assigns saved.states.entries response.name (some text) ∧
      ResponseKind.Takes text response.kind next ∧
      saved.restate response = { response with kind := next }) ∨
    ((∀ text, Assigns saved.states.entries response.name (some text) →
      ∀ next, ¬ ResponseKind.Takes text response.kind next) ∧
      saved.restate response = response) := by
  unfold restate
  simp only [assigns_toHashMap_iff]
  cases found : entryFor saved.states.toHashMap response.name with
  | none => exact .inr ⟨by simp, rfl⟩
  | some text =>
      cases tried : response.setState text with
      | ok changed =>
          obtain ⟨next, takes, _⟩ := Response.setState_eq_ok_iff.mp tried
          exact .inl ⟨text, next, rfl, takes, Response.tuned_of_takes takes⟩
      | error error =>
          refine .inr ⟨fun other same => ?_, Response.tuned_of_error tried⟩
          cases same
          exact Response.not_takes_of_error tried

theorem restored_seed (saved : SavedState) (response : Response) :
    saved.Restored response (saved.seed response) := by
  have toggled : ∀ kind, saved.retoggle { response with kind } = { response with
      kind, enabled := (entryFor saved.enabled.toHashMap response.name).getD response.enabled } := by
    intro kind
    unfold retoggle
    cases entryFor saved.enabled.toHashMap response.name <;> rfl
  have flag : Assigns saved.enabled.entries response.name
        (some ((entryFor saved.enabled.toHashMap response.name).getD response.enabled)) ∨
      (Assigns saved.enabled.entries response.name none ∧
        (entryFor saved.enabled.toHashMap response.name).getD response.enabled = response.enabled) := by
    simp only [assigns_toHashMap_iff]
    cases entryFor saved.enabled.toHashMap response.name with
    | none => exact .inr ⟨rfl, rfl⟩
    | some enabled => exact .inl rfl
  unfold seed
  rcases saved.restate_cases response with ⟨text, next, stated, takes, same⟩ | ⟨refuses, same⟩
  · rw [same, toggled]
    exact ⟨rfl, .inl ⟨text, stated, takes⟩, flag⟩
  · rw [same, toggled response.kind]
    exact ⟨rfl, .inr ⟨refuses, rfl⟩, flag⟩

theorem AgreeOn.refl (name : String) (saved : SavedState) : saved.AgreeOn name saved :=
  ⟨fun _ => Iff.rfl, fun _ => Iff.rfl⟩

theorem AgreeOn.of_entryFor {name : String} {saved other : SavedState}
    (states : entryFor other.states.toHashMap name = entryFor saved.states.toHashMap name)
    (enabled : entryFor other.enabled.toHashMap name = entryFor saved.enabled.toHashMap name) :
    saved.AgreeOn name other := by
  constructor
  · intro value
    rw [assigns_toHashMap_iff, assigns_toHashMap_iff, states]
  · intro value
    rw [assigns_toHashMap_iff, assigns_toHashMap_iff, enabled]

theorem Restored.unique {saved document : SavedState} {earlier later other : Response}
    (agree : saved.AgreeOn earlier.name document) (first : saved.Restored earlier later)
    (second : document.Restored earlier other) : other = later := by
  have kinds : other.kind = later.kind := by
    rcases first.state with ⟨text, assigned, takes⟩ | ⟨refuses, kept⟩
    · rcases second.state with ⟨also, alsoAssigned, alsoTakes⟩ | ⟨alsoRefuses, alsoKept⟩
      · cases Assigns.unique saved.states.nodup_keys assigned ((agree.states _).mp alsoAssigned)
        exact takes.unique alsoTakes
      · exact absurd takes (alsoRefuses text ((agree.states _).mpr assigned) _)
    · rcases second.state with ⟨also, alsoAssigned, alsoTakes⟩ | ⟨alsoRefuses, alsoKept⟩
      · exact absurd alsoTakes (refuses also ((agree.states _).mp alsoAssigned) _)
      · rw [kept, alsoKept]
  have flags : other.enabled = later.enabled := by
    have distinct := saved.enabled.nodup_keys
    rcases first.flag with assigned | ⟨assigned, kept⟩
    · rcases second.flag with also | ⟨also, alsoKept⟩
      · exact Option.some.inj (assigned.unique distinct ((agree.enabled _).mp also))
      · cases assigned.unique distinct ((agree.enabled _).mp also)
    · rcases second.flag with also | ⟨also, alsoKept⟩
      · cases assigned.unique distinct ((agree.enabled _).mp also)
      · rw [kept, alsoKept]
  rw [second.rest, first.rest, kinds, flags]

theorem Restored.again {saved : SavedState} {earlier later : Response}
    (restored : saved.Restored earlier later) : saved.Restored later later := by
  have name : later.name = earlier.name := by rw [restored.rest]
  refine ⟨rfl, ?_, ?_⟩
  · rw [name]
    rcases restored.state with ⟨text, assigned, takes⟩ | ⟨refuses, kept⟩
    · exact .inl ⟨text, assigned, takes.of_untuned takes.untuned⟩
    · exact .inr ⟨kept ▸ refuses, rfl⟩
  · rw [name]
    rcases restored.flag with assigned | ⟨assigned, _⟩
    · exact .inl assigned
    · exact .inr ⟨assigned, rfl⟩

theorem seed_again (saved : SavedState) (response : Response) :
    saved.seed (saved.seed response) = saved.seed response :=
  (saved.restored_seed response).again.unique (.refl _ saved) (saved.restored_seed _)

theorem apply_again (saved : SavedState) (registry : Registry) :
    (saved.apply (saved.apply registry).registry).registry = (saved.apply registry).registry := by
  simp only [registry_seed, List.map_map, Function.comp_def, seed_again]

end SavedState

namespace Service

variable {service : Service} {saved : SavedState}

theorem responses_restore (loaded : service.live.storage.load.1 = .ok (some saved)) :
    service.restore.2.1.live.registry.responses =
      service.live.registry.responses.map saved.seed := by
  rw [(restore_of_loaded loaded).2, saved.registry_seed]

theorem restore_again (loaded : service.live.storage.load.1 = .ok (some saved)) :
    service.restore.2.1.restore.1 = true ∧
      service.restore.2.1.restore.2.1 = service.restore.2.1 := by
  have once := (restore_eq_adopt loaded).2
  have stillLoaded : service.restore.2.1.live.storage.load.1 = .ok (some saved) := by
    rw [once]
    exact loaded
  obtain ⟨done, twice⟩ := restore_eq_adopt stillLoaded
  refine ⟨done, ?_⟩
  rw [twice, once]
  simp only [adopt, saved.apply_again]

end Service

/-- What is loaded is restored as a whole, or nothing is. The clicks become those of the document,
each rule takes what the entries for it assign and accept, no other entry has a part in that, and
restoring again changes nothing. -/
theorem restore_all_or_nothing (service : Service) :
    let later := service.restore.2.1
    ((∀ saved, service.live.storage.load.1 ≠ .ok (some saved)) →
      service.restore.1 = false ∧ later = service) ∧
    ∀ saved, service.live.storage.load.1 = .ok (some saved) →
      service.restore.1 = true ∧
      (∀ member, later.live.clicks.counts.lookup member = saved.clicks.lookup member ∧
        later.live.clicks.count member = (saved.clicks.lookup member).getD 0) ∧
      List.Forall₂ saved.Restored service.live.registry.responses
        later.live.registry.responses ∧
      later = { service with live := { service.live with
        registry := later.live.registry, clicks := later.live.clicks } } ∧
      (∀ (other : Service) (document : SavedState) (place : Nat) (response : Response),
        other.live.storage.load.1 = .ok (some document) →
        service.live.registry.responses[place]? = some response →
        other.live.registry.responses[place]? = some response →
        saved.AgreeOn response.name document →
          other.restore.2.1.live.registry.responses[place]? =
            later.live.registry.responses[place]?) ∧
      later.restore.1 = true ∧ later.restore.2.1 = later := by
  intro later
  refine ⟨Service.restore_of_unloaded, fun saved loaded => ?_⟩
  obtain ⟨done, adopted⟩ := Service.restore_eq_adopt loaded
  have same : later = (service.adopt saved).1 := adopted
  have rules := Service.responses_restore loaded
  refine ⟨done, fun member => ?_, ?_, ?_, ?_, Service.restore_again loaded⟩
  · rw [same]
    exact ⟨rfl, rfl⟩
  · rw [rules, List.forall₂_map_right_iff]
    exact List.forall₂_same.mpr fun response _ => saved.restored_seed response
  · rw [same]
    rfl
  · intro other document place response otherLoaded inFirst inSecond agree
    rw [rules, Service.responses_restore otherLoaded, List.getElem?_map, List.getElem?_map, inFirst,
      inSecond]
    exact congrArg some
      ((saved.restored_seed response).unique agree (document.restored_seed response))

def partlySaved : SavedState where
  states := .ofList [("TINA", "react"), ("mention", "0.25"), ("upa", "message")]
  enabled := .ofList [("Tina", false)]
  clicks := .ofList [(⟨42⟩, 3)]

def purged : SavedState :=
  { partlySaved with states := .ofList [("TINA", "react")] }

def clickedService (content : Option SavedState) : Service where
  settings := {}
  live :=
    { registry := tinaRules, clicks := ⟨.ofList [(⟨7⟩, 5)]⟩
      storage := ⟨⟨[], []⟩, .memory { content }⟩, owner := none, savesChanges := true }

theorem tinaRules_restored :
    let later := (clickedService (some partlySaved)).restore.2.1
    (clickedService none).restore.1 = false ∧
      (clickedService none).restore.2.1 = clickedService none ∧
      (clickedService (some partlySaved)).restore.1 = true ∧
      later.live.registry.summaries =
        [⟨"mention", true, "N/A"⟩, ⟨"tina", false, "react"⟩, ⟨"Tina", false, "0.5"⟩] ∧
      later.live.clicks.count ⟨42⟩ = 3 ∧ later.live.clicks.count ⟨7⟩ = 0 ∧
      (clickedService (some purged)).restore.2.1.live.registry.responses[1]? =
        later.live.registry.responses[1]? ∧
      later.restore.1 = true ∧ later.restore.2.1 = later := by
  intro later
  have kept := (restore_all_or_nothing (clickedService none)).1
    (by simp [clickedService, Storage.load])
  obtain ⟨done, clicks, _, _, alone, again⟩ :=
    (restore_all_or_nothing (clickedService (some partlySaved))).2 partlySaved rfl
  refine ⟨kept.1, kept.2, done, by decide +kernel, (clicks _).2, (clicks _).2, ?_, again⟩
  exact alone _ purged 1 _ rfl rfl rfl (.of_entryFor (by decide) rfl)

end AutoReply
