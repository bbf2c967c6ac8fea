import Mathlib.Data.List.Forall2
import AutoReply.Proofs.Control.Commands
import AutoReply.Proofs.Rule.Chance
import AutoReply.Proofs.Storage.Saves

/-!
What operators ask for. A request is granted as a whole or refused without a trace; a save that
fails afterwards takes nothing back and leaves what is stored.
-/

namespace AutoReply.Control

open AutoReply.Number AutoReply.Rule AutoReply.Storage AutoReply.Text

namespace Live

theorem rest_saveChange (live : Live) :
    live.saveChange.1 = { live with storage := live.saveChange.1.storage } := by
  by_cases saves : live.savesChanges = true
  · rw [(saveChange_of_saves saves).1]
  · rw [(saveChange_of_keeps (by simpa using saves)).1]

theorem stored_saveChange {live : Live} (keeps : live.storage.SavesOrKeeps)
    (saves : live.savesChanges = true) (succeeded : live.saveChange.2.1 = none) :
    live.saveChange.1.storage.stored = some live.saveChange.1.capture := by
  obtain ⟨after, failure⟩ := saveChange_of_saves saves
  rw [failure] at succeeded
  rw [after]
  rcases keeps live.capture with ⟨_, stored⟩ | ⟨error, failed, _⟩
  · exact stored
  · rw [succeeded] at failed
    contradiction

theorem stored_saveChange_of_unsaved {live : Live} (keeps : live.storage.SavesOrKeeps)
    (unsaved : live.saveChange.2.1 ≠ none ∨ live.savesChanges = false) :
    live.saveChange.1.storage.stored = live.storage.stored := by
  cases saves : live.savesChanges with
  | false => rw [(saveChange_of_keeps saves).1]
  | true =>
      obtain ⟨after, failure⟩ := saveChange_of_saves saves
      rw [saves, failure] at unsaved
      rw [after]
      rcases keeps live.capture with ⟨succeeded, _⟩ | ⟨_, _, kept⟩
      · simp [succeeded] at unsaved
      · exact kept

end Live

inductive Request
  | state (text : String)
  | enabled (flag : Bool)

namespace Request

def carryOut (live : Live) (target : String) : Request → Outcome AdminError String
  | state text => live.setState target text
  | enabled true => live.enable target
  | enabled false => live.disable target

inductive Grants : Request → Response → Response → Prop
  | enabled (flag : Bool) (response : Response) :
      Grants (.enabled flag) response { response with enabled := flag }
  | mode {response : Response} {message react : Action} {earlier mode : ReplyMode} :
      response.kind = .sendOrReact message react earlier →
      Grants (.state mode.text) response { response with kind := .sendOrReact message react mode }
  | chance {response : Response} {action : Action} {earlier chance : Binary64} {text : String} :
      response.kind = .randomChance action earlier →
      Binary64.ofText? (trim text.toList) = some chance → isProbability chance = true →
      Grants (.state text) response { response with kind := .randomChance action chance }

def tryOn (response : Response) : Request → Except StateError Response
  | state text => response.setState text
  | enabled flag => .ok (response.setEnabled flag)

theorem tryOn_eq_ok_iff {request : Request} {response changed : Response} :
    request.tryOn response = .ok changed ↔ request.Grants response changed := by
  constructor
  · intro accepted
    cases request with
    | enabled flag =>
        cases accepted
        exact .enabled flag response
    | state text =>
        rcases Response.setState_eq_ok accepted with
          ⟨message, react, mode, selected, kind, parsed, rfl⟩ |
          ⟨action, chance, selected, kind, parsed, rfl⟩
        · rw [ReplyMode.ofText_eq_ok_iff.mp parsed]
          exact .mode kind
        · obtain ⟨read, probability⟩ := chanceOfText_eq_ok_iff.mp parsed
          exact .chance kind read probability
  · intro granted
    cases granted with
    | enabled => rfl
    | mode kind => simp [tryOn, Response.setState, kind, Rule.ReplyMode.ofText_text, Except.map]
    | chance kind read probability =>
        simp [tryOn, Response.setState, kind, chanceOfText_eq_ok_iff.mpr ⟨read, probability⟩,
          Except.map]

def change (registry : Registry) (target : String) (request : Request) :
    Except RegistryError Registry :=
  if isAll target then
    .ok ⟨registry.responses.map fun response => (request.tryOn response).toOption.getD response⟩
  else match registry.get target with
    | .error error => .error error
    | .ok response =>
        match request.tryOn response with
        | .error error => .error (.state error)
        | .ok changed => .ok (registry.replace target changed)

def answered (live : Live) (target : String) (request : Request) (journal : Journal)
    (text : String) : Outcome AdminError String :=
  match request.change live.registry target with
  | .error error => ⟨.error (.ofRegistry error), live, []⟩
  | .ok registry => { live with registry }.answerSaved journal .store text

theorem setState_eq_answered (live : Live) (target state : String) :
    ∃ journal text, live.setState target state =
      (Request.state state).answered live target journal text := by
  unfold Live.setState answered change
  by_cases all : isAll target = true
  · have same (response : Response) :
        ((Request.state state).tryOn response).toOption.getD response = response.tuned state := by
      simp only [tryOn, Response.tuned]
      cases response.setState state <;> rfl
    simp only [all, if_true, same, ← Registry.registry_setAllStates]
    exact ⟨_, _, rfl⟩
  · simp only [all, Bool.false_eq_true, if_false, Registry.setState, tryOn]
    refine ⟨[Live.stateEntry target state],
      "Successfully set response " ++ target ++ " to state " ++ state, ?_⟩
    cases live.registry.get target with
    | error error => rfl
    | ok response => cases response.setState state <;> rfl

theorem setEnabled_eq_answered (live : Live) (target : String) (flag : Bool) :
    ∃ journal text, live.setEnabled target flag =
      (Request.enabled flag).answered live target journal text := by
  unfold Live.setEnabled answered change
  by_cases all : isAll target = true
  · simp only [all, if_true]
    exact ⟨_, _, rfl⟩
  · simp only [all, Bool.false_eq_true, if_false, Registry.setEnabled, tryOn]
    refine ⟨[Live.toggleEntry target flag], Live.toggleVerb flag ++ " response " ++ target, ?_⟩
    cases live.registry.get target <;> rfl

theorem carryOut_eq_answered (live : Live) (target : String) (request : Request) :
    ∃ journal text, request.carryOut live target = request.answered live target journal text := by
  cases request with
  | state text => exact setState_eq_answered live target text
  | enabled flag => cases flag <;> exact setEnabled_eq_answered live target _

variable {live : Live} {target : String} {request : Request}

theorem carryOut_of_error {error : RegistryError}
    (refused : request.change live.registry target = .error error) :
    request.carryOut live target = ⟨.error (.ofRegistry error), live, []⟩ := by
  obtain ⟨journal, text, carried⟩ := carryOut_eq_answered live target request
  rw [carried, answered, refused]

theorem carryOut_of_ok {registry : Registry}
    (changed : request.change live.registry target = .ok registry) :
    ∃ text, (request.carryOut live target).live = { live with registry }.saveChange.1 ∧
      (request.carryOut live target).answer =
        { live with registry }.saveChange.2.1.elim (.ok text)
          fun error => .error (.store error) := by
  obtain ⟨journal, text, carried⟩ := carryOut_eq_answered live target request
  rw [carried, answered, changed]
  exact ⟨text, Live.live_answerSaved .., Live.answer_answerSaved ..⟩

def Unknown (live : Live) (target : String) : Prop :=
  isAll target = false ∧ ∀ response ∈ live.registry.responses, lower response.name ≠ lower target

structure Addresses (live : Live) (target : String) (before : List Response) (response : Response)
    (after : List Response) : Prop where
  single : isAll target = false
  split : live.registry.responses = before ++ response :: after
  named : lower response.name = lower target
  unnamed : ∀ other ∈ before, lower other.name ≠ lower target

theorem Addresses.lookup {before : List Response} {response : Response} {after : List Response}
    (addresses : Addresses live target before response after) :
    live.registry.lookup target = some response := by
  refine List.find?_eq_some_iff_append.mpr ⟨?_, before, after, addresses.split, ?_⟩
  · simpa [Response.isNamed] using addresses.named
  · intro other member
    simpa [Response.isNamed] using addresses.unnamed other member

theorem lookup_of_unknown (unknown : Unknown live target) : live.registry.lookup target = none := by
  refine List.find?_eq_none.mpr fun response member => ?_
  simpa [Response.isNamed] using unknown.2 response member

variable (live) in
theorem unknown_or_addresses (single : isAll target = false) :
    (Unknown live target ∧ live.registry.get target = .error (.notFound target)) ∨
      ∃ before response after, Addresses live target before response after ∧
        live.registry.get target = .ok response ∧ ∀ changed,
          (live.registry.replace target changed).responses = before ++ changed :: after := by
  unfold Registry.get
  cases found : live.registry.lookup target with
  | none =>
      refine .inl ⟨⟨single, fun response member => ?_⟩, rfl⟩
      have unnamed := List.find?_eq_none.mp found response member
      simpa [Response.isNamed] using unnamed
  | some response =>
      obtain ⟨before, after, split, named, unnamed, _⟩ := Registry.replace_split response found
      refine .inr ⟨before, response, after, ⟨single, split, ?_, ?_⟩, rfl, fun changed => ?_⟩
      · simpa [Response.isNamed] using named
      · intro other member
        simpa [Response.isNamed] using unnamed other member
      · cases registry : live.registry
        rw [registry] at split
        cases split
        exact Registry.replace_append after changed named unnamed

inductive Granted (live : Live) (target : String) (request : Request) : Registry → Prop
  | single {before : List Response} {response changed : Response} {after : List Response} :
      Addresses live target before response after → request.Grants response changed →
      Granted live target request ⟨before ++ changed :: after⟩
  | all {responses : List Response} : isAll target = true →
      List.Forall₂ (fun response later => request.Grants response later ∨
        (¬ ∃ changed, request.Grants response changed) ∧ later = response)
        live.registry.responses responses →
      Granted live target request ⟨responses⟩

def Rejected (live : Live) (target : String) (request : Request) : Prop :=
  ∃ before response after, Addresses live target before response after ∧
    ¬ ∃ changed, request.Grants response changed

theorem not_grants_of_error {response : Response} {error : StateError}
    (rejected : request.tryOn response = .error error) :
    ¬ ∃ changed, request.Grants response changed := by
  rintro ⟨changed, grants⟩
  rw [tryOn_eq_ok_iff.mpr grants] at rejected
  contradiction

variable (live target request)

theorem granted_all (all : isAll target = true) : ∃ registry,
    request.change live.registry target = .ok registry ∧ Granted live target request registry := by
  unfold change
  rw [if_pos all]
  refine ⟨_, rfl, .all all ?_⟩
  rw [List.forall₂_map_right_iff, List.forall₂_same]
  intro response _
  cases tried : request.tryOn response with
  | ok changed => exact .inl (tryOn_eq_ok_iff.mp tried)
  | error error => exact .inr ⟨not_grants_of_error tried, rfl⟩

theorem change_cases :
    (Unknown live target ∧
      request.change live.registry target = .error (.notFound target)) ∨
    (Rejected live target request ∧
      ∃ error, request.change live.registry target = .error (.state error)) ∨
    ∃ registry, request.change live.registry target = .ok registry ∧
      Granted live target request registry := by
  by_cases all : isAll target = true
  · exact .inr (.inr (granted_all live target request all))
  · have single : isAll target = false := by simpa using all
    unfold change
    rw [if_neg all]
    rcases unknown_or_addresses live single with
      ⟨unknown, missing⟩ | ⟨before, response, after, addresses, found, replaced⟩
    · exact .inl ⟨unknown, by rw [missing]⟩
    · rw [found]
      cases tried : request.tryOn response with
      | error error =>
          exact .inr (.inl ⟨⟨before, response, after, addresses, not_grants_of_error tried⟩, error,
            by simp [tried]⟩)
      | ok changed =>
          refine .inr (.inr ⟨live.registry.replace target changed, by simp [tried], ?_⟩)
          have same : live.registry.replace target changed = ⟨before ++ changed :: after⟩ := by
            rw [← replaced changed]
          rw [same]
          exact .single addresses (tryOn_eq_ok_iff.mp tried)

variable {live target request}

theorem not_rejected_of_unknown (unknown : Unknown live target) :
    ¬ Rejected live target request := by
  rintro ⟨before, response, after, addresses, _⟩
  have found := addresses.lookup
  rw [lookup_of_unknown unknown] at found
  contradiction

theorem not_rejected_of_granted {registry : Registry}
    (granted : Granted live target request registry) : ¬ Rejected live target request := by
  rintro ⟨before, response, after, addresses, refuses⟩
  cases granted with
  | single others grants =>
      have found := others.lookup
      rw [addresses.lookup, Option.some.injEq] at found
      exact refuses ⟨_, found ▸ grants⟩
  | all all =>
      rw [addresses.single] at all
      contradiction

theorem not_unknown_of_granted {registry : Registry}
    (granted : Granted live target request registry) : ¬ Unknown live target := by
  intro unknown
  cases granted with
  | single addresses =>
      have found := addresses.lookup
      rw [lookup_of_unknown unknown] at found
      contradiction
  | all all =>
      rw [unknown.1] at all
      contradiction

def Refuses (answer : Except AdminError String) : Prop :=
  (∃ name, answer = .error (.notFound name)) ∨ ∃ error, answer = .error (.state error)

/-- An answer after which the change is made, whether or not it could be saved. -/
def Accepts (answer : Except AdminError String) : Prop :=
  (∃ text, answer = .ok text) ∨ ∃ error, answer = .error (.store error)

structure AllOrNothing (live : Live) (target : String) (request : Request)
    (outcome : Outcome AdminError String) : Prop where
  answers : Refuses outcome.answer ∨ Accepts outcome.answer
  notFound : (∃ name, outcome.answer = .error (.notFound name)) ↔ Unknown live target
  rejected : (∃ error, outcome.answer = .error (.state error)) ↔ Rejected live target request
  /-- Whatever storage there is, no save is tried on it. -/
  refused : Refuses outcome.answer → outcome.live = live ∧
    ∀ storage, request.carryOut { live with storage } target =
      ⟨outcome.answer, { live with storage }, []⟩
  granted : Accepts outcome.answer → Granted live target request outcome.live.registry
  rest : outcome.live =
    { live with registry := outcome.live.registry, storage := outcome.live.storage }
  stored : (∃ text, outcome.answer = .ok text) → live.savesChanges = true →
    outcome.live.storage.stored = some outcome.live.capture
  kept : (¬ ∃ text, outcome.answer = .ok text) ∨ live.savesChanges = false →
    outcome.live.storage.stored = live.storage.stored

theorem allOrNothing_of_error {error : RegistryError}
    (refused : request.change live.registry target = .error error)
    (notFound : (∃ name, error = .notFound name) ↔ Unknown live target)
    (rejected : (∃ reason, error = .state reason) ↔ Rejected live target request) :
    AllOrNothing live target request (request.carryOut live target) := by
  have refuses : Refuses (.error (.ofRegistry error)) := by
    cases error with
    | notFound name => exact .inl ⟨name, rfl⟩
    | state reason => exact .inr ⟨reason, rfl⟩
  rw [carryOut_of_error refused]
  constructor
  case answers => exact .inl refuses
  case notFound =>
    rw [← notFound]
    cases error <;> simp [AdminError.ofRegistry]
  case rejected =>
    rw [← rejected]
    cases error <;> simp [AdminError.ofRegistry]
  case refused => exact fun _ => ⟨rfl, fun storage => carryOut_of_error refused⟩
  case granted =>
    rintro (⟨text, ok⟩ | ⟨fault, failed⟩)
    · contradiction
    · cases error <;> cases failed
  case rest => rfl
  case stored =>
    rintro ⟨text, ok⟩
    contradiction
  case kept => exact fun _ => rfl

theorem accepts_of_ok {registry : Registry}
    (changed : request.change live.registry target = .ok registry) :
    Accepts (request.carryOut live target).answer := by
  obtain ⟨text, _, answer⟩ := carryOut_of_ok changed
  rw [answer]
  cases Live.saveChange { live with registry } |>.2.1 with
  | none => exact .inl ⟨text, rfl⟩
  | some fault => exact .inr ⟨fault, rfl⟩

theorem allOrNothing_of_ok {registry : Registry}
    (changed : request.change live.registry target = .ok registry)
    (granted : Granted live target request registry) (keeps : live.storage.SavesOrKeeps) :
    AllOrNothing live target request (request.carryOut live target) := by
  obtain ⟨text, after, answer⟩ := carryOut_of_ok changed
  have accepts := accepts_of_ok changed
  have accepted : ¬ Refuses (request.carryOut live target).answer := by
    rcases accepts with ⟨text, ok⟩ | ⟨fault, failed⟩
    · rw [ok]
      rintro (⟨name, same⟩ | ⟨error, same⟩) <;> contradiction
    · rw [failed]
      rintro (⟨name, same⟩ | ⟨error, same⟩) <;> cases same
  constructor
  case answers => exact .inr accepts
  case notFound =>
    exact iff_of_false (fun missing => accepted (.inl missing)) (not_unknown_of_granted granted)
  case rejected =>
    exact iff_of_false (fun refused => accepted (.inr refused)) (not_rejected_of_granted granted)
  case refused => exact fun refused => absurd refused accepted
  case granted =>
    intro _
    rw [after, Live.registry_saveChange]
    exact granted
  case rest =>
    rw [after]
    exact (Live.rest_saveChange _).trans (by rw [Live.registry_saveChange])
  case stored =>
    rintro ⟨other, ok⟩ saves
    rw [after]
    refine Live.stored_saveChange keeps saves ?_
    rw [answer] at ok
    cases failure : Live.saveChange { live with registry } |>.2.1 with
    | none => rfl
    | some fault =>
        rw [failure] at ok
        contradiction
  case kept =>
    intro unsaved
    rw [after]
    refine Live.stored_saveChange_of_unsaved keeps (unsaved.imp_left fun failed succeeded => ?_)
    rw [answer, succeeded] at failed
    exact failed ⟨text, rfl⟩

/-- A request that is refused changes nothing and saves nothing; one that is accepted is granted in
full, and what is stored changes only to what is live, when the answer says that it is saved. -/
theorem requests_all_or_nothing (live : Live) (target : String) (request : Request)
    (keeps : live.storage.SavesOrKeeps) :
    AllOrNothing live target request (request.carryOut live target) := by
  rcases change_cases live target request with
    ⟨unknown, refused⟩ | ⟨rejected, error, refused⟩ | ⟨registry, changed, granted⟩
  · refine allOrNothing_of_error refused ?_ ?_
    · exact iff_of_true ⟨target, rfl⟩ unknown
    · exact iff_of_false (by simp) (not_rejected_of_unknown unknown)
  · refine allOrNothing_of_error refused ?_ ?_
    · refine iff_of_false (by simp) fun unknown => not_rejected_of_unknown unknown rejected
    · exact iff_of_true ⟨error, rfl⟩ rejected
  · exact allOrNothing_of_ok changed granted keeps

def crowdedBot : Live where
  registry :=
    ⟨[.plain "mayuri" (.predicate "any" fun _ _ => true) .echo,
      .sendOrReact "tina" (.predicate "any" fun _ _ => true) "Tina!" ⟨1⟩ .message,
      .sendOrReact "Tina" (.predicate "any" fun _ _ => true) "Tina!" ⟨1⟩ .message]⟩
  clicks := .empty
  storage := ⟨⟨[], []⟩, .memory { saveFault := fun _ => some (.io "store" "disk full") }⟩
  owner := none
  savesChanges := true

theorem crowdedBot_all_or_nothing :
    let outcome := Request.carryOut crowdedBot "TINA" (.state "react")
    crowdedBot.storage.SavesOrKeeps ∧
      AllOrNothing crowdedBot "TINA" (.state "react") outcome ∧
      outcome.answer = .error (.store (.io "store" "disk full")) ∧
      outcome.live.registry.responses.map Response.state = ["N/A", "react", "message"] := by
  have keeps : crowdedBot.storage.SavesOrKeeps := Storage.savesOrKeeps_memory _ _
  exact ⟨keeps, requests_all_or_nothing crowdedBot "TINA" (.state "react") keeps, by decide,
    by decide⟩

end Request

end AutoReply.Control
