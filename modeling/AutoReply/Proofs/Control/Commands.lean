import AutoReply.Control.Admin
import AutoReply.Control.Click
import AutoReply.Proofs.Registry.Settings

/-!
The commands of operators and users. A command is refused and changes nothing, or it makes its
change, which is then saved if changes are saved; its answer is an error exactly when that fails.
-/

namespace AutoReply.Control

open AutoReply.Chat AutoReply.Rule AutoReply.Storage

inductive Command
  | setState (target state : String)
  | enable (target : String)
  | disable (target : String)
  | click (clicker : String) (member : UserId) (memberName : String)

inductive CommandReply
  | admin (answer : Except AdminError String)
  | click (answer : Except ClickError RichMessage)

namespace CommandReply

def isOk : CommandReply → Bool
  | admin (.ok _) => true
  | click (.ok _) => true
  | _ => false

def storeError? : CommandReply → Option StoreError
  | admin (.error (.store error)) => some error
  | click (.error (.notSaved error)) => some error
  | _ => none

end CommandReply

namespace Live

theorem live_answerSaved {ε α : Type} (live : Live) (journal : Journal) (failed : StoreError → ε)
    (answer : α) : (live.answerSaved journal failed answer).live = live.saveChange.1 := by
  unfold answerSaved
  simp only
  split <;> rfl

theorem answer_answerSaved {ε α : Type} (live : Live) (journal : Journal)
    (failed : StoreError → ε) (answer : α) :
    (live.answerSaved journal failed answer).answer =
      live.saveChange.2.1.elim (.ok answer) fun error => .error (failed error) := by
  unfold answerSaved
  simp only
  split
  next none => rw [none, Option.elim_none]
  next error some => rw [some, Option.elim_some]

theorem saveChange_of_saves {live : Live} (saves : live.savesChanges = true) :
    live.saveChange.1 = { live with storage := (live.storage.save live.capture).1 } ∧
      live.saveChange.2.1 = (live.storage.save live.capture).2.1 := by
  unfold saveChange
  rw [if_pos saves]
  exact ⟨rfl, rfl⟩

theorem saveChange_of_keeps {live : Live} (keeps : live.savesChanges = false) :
    live.saveChange.1 = live ∧ live.saveChange.2.1 = none := by
  unfold saveChange
  rw [if_neg (by simp [keeps])]
  exact ⟨rfl, rfl⟩

theorem savesChanges_saveChange (live : Live) :
    live.saveChange.1.savesChanges = live.savesChanges := by
  cases saves : live.savesChanges with
  | true => rw [(saveChange_of_saves saves).1, saves]
  | false => rw [(saveChange_of_keeps saves).1, saves]

theorem registry_saveChange (live : Live) : live.saveChange.1.registry = live.registry := by
  cases saves : live.savesChanges with
  | true => rw [(saveChange_of_saves saves).1]
  | false => rw [(saveChange_of_keeps saves).1]

end Live

namespace Command

def perform (live : Live) : Command → CommandReply × Live
  | setState target state =>
      let outcome := live.setState target state
      (.admin outcome.answer, outcome.live)
  | enable target =>
      let outcome := live.enable target
      (.admin outcome.answer, outcome.live)
  | disable target =>
      let outcome := live.disable target
      (.admin outcome.answer, outcome.live)
  | click clicker member memberName =>
      let outcome := live.click clicker member memberName
      (.click outcome.answer, outcome.live)

def toggled? (live : Live) (target : String) (enabled : Bool) : Option Registry :=
  if isAll target then some (live.registry.setAllEnabled enabled)
  else (live.registry.setEnabled target enabled).toOption

/-- The rules after a command; none when it is refused. -/
def rules? (live : Live) : Command → Option Registry
  | setState target state =>
      if isAll target then some (live.registry.setAllStates state).1
      else (live.registry.setState target state).toOption
  | enable target => toggled? live target true
  | disable target => toggled? live target false
  | click _ _ _ => some live.registry

def clicks (live : Live) : Command → ClickBoard
  | click _ member _ => live.clicks.click member
  | _ => live.clicks

/-- What a command makes of the rules and clicks, before that is saved. -/
def change? (live : Live) (command : Command) : Option Live :=
  (command.rules? live).map fun registry =>
    { live with registry, clicks := command.clicks live }

structure Saves (performed : CommandReply × Live) (changed : Live) : Prop where
  after : performed.2 = changed.saveChange.1
  isOk : performed.1.isOk = changed.saveChange.2.1.isNone
  storeError : performed.1.storeError? = changed.saveChange.2.1

structure Refused (performed : CommandReply × Live) (live : Live) : Prop where
  after : performed.2 = live
  isOk : performed.1.isOk = false
  storeError : performed.1.storeError? = none

theorem saves_answerSaved {ε α : Type} (reply : Except ε α → CommandReply) (changed : Live)
    (journal : Journal) (failed : StoreError → ε) (answer : α)
    (ok : (reply (.ok answer)).isOk = true ∧ (reply (.ok answer)).storeError? = none)
    (error : ∀ error, (reply (.error (failed error))).isOk = false ∧
      (reply (.error (failed error))).storeError? = some error) :
    Saves (reply (changed.answerSaved journal failed answer).answer,
      (changed.answerSaved journal failed answer).live) changed := by
  refine ⟨Live.live_answerSaved .., ?_, ?_⟩
  · simp only [Live.answer_answerSaved]
    cases changed.saveChange.2.1 with
    | none => exact ok.1
    | some fault => exact (error fault).1
  · simp only [Live.answer_answerSaved]
    cases changed.saveChange.2.1 with
    | none => exact ok.2
    | some fault => exact (error fault).2

theorem saves_admin (changed : Live) (journal : Journal) (answer : String) :
    let outcome := changed.answerSaved journal AdminError.store answer
    Saves (.admin outcome.answer, outcome.live) changed :=
  saves_answerSaved .admin changed journal .store answer ⟨rfl, rfl⟩ fun _ => ⟨rfl, rfl⟩

theorem saves_click (changed : Live) (journal : Journal) (answer : RichMessage) :
    let outcome := changed.answerSaved journal ClickError.notSaved answer
    Saves (.click outcome.answer, outcome.live) changed :=
  saves_answerSaved .click changed journal .notSaved answer ⟨rfl, rfl⟩ fun _ => ⟨rfl, rfl⟩

theorem refused_admin (live : Live) (error : RegistryError) :
    Refused (.admin (.error (.ofRegistry error)), live) live := by
  cases error <;> exact ⟨rfl, rfl, rfl⟩

def Performs (performed : CommandReply × Live) (live : Live) (change? : Option Live) : Prop :=
  change?.elim (Refused performed live) (Saves performed)

theorem performs_setState (live : Live) (target state : String) :
    Performs ((setState target state).perform live) live ((setState target state).change? live) := by
  unfold perform Live.setState change? rules?
  by_cases all : isAll target = true
  · simp only [all, if_true]
    exact saves_admin _ _ _
  · simp only [all]
    cases live.registry.setState target state with
    | error error => exact refused_admin live error
    | ok registry => exact saves_admin _ _ _

theorem performs_setEnabled (live : Live) (target : String) (enabled : Bool) :
    Performs (.admin (live.setEnabled target enabled).answer, (live.setEnabled target enabled).live)
      live ((toggled? live target enabled).map fun registry => { live with registry }) := by
  unfold Live.setEnabled toggled?
  by_cases all : isAll target = true
  · simp only [all, if_true]
    exact saves_admin _ _ _
  · simp only [all]
    cases live.registry.setEnabled target enabled with
    | error error => exact refused_admin live error
    | ok registry => exact saves_admin _ _ _

/-- A command is refused, or saves its change and answers with the error of the save. -/
theorem performs (live : Live) (command : Command) :
    Performs (command.perform live) live (command.change? live) := by
  cases command with
  | setState target state => exact performs_setState live target state
  | enable target => exact performs_setEnabled live target true
  | disable target => exact performs_setEnabled live target false
  | click clicker member memberName => exact saves_click _ _ _

theorem refused_of_change? {live : Live} {command : Command}
    (unchanged : command.change? live = none) : Refused (command.perform live) live := by
  have performed := performs live command
  unfold Performs at performed
  rw [unchanged] at performed
  exact performed

theorem saves_of_change? {live changed : Live} {command : Command}
    (found : command.change? live = some changed) : Saves (command.perform live) changed := by
  have performed := performs live command
  unfold Performs at performed
  rw [found] at performed
  exact performed

theorem change?_eq_some {live changed : Live} {command : Command}
    (found : command.change? live = some changed) :
    ∃ registry, command.rules? live = some registry ∧
      changed = { live with registry, clicks := command.clicks live } := by
  obtain ⟨registry, accepted, same⟩ := Option.map_eq_some_iff.mp found
  exact ⟨registry, accepted, same.symm⟩

theorem savesChanges_perform (live : Live) (command : Command) :
    (command.perform live).2.savesChanges = live.savesChanges := by
  cases found : command.change? live with
  | none => rw [(refused_of_change? found).after]
  | some changed =>
      obtain ⟨registry, _, same⟩ := change?_eq_some found
      rw [(saves_of_change? found).after, Live.savesChanges_saveChange, same]

theorem retuned_of_toOption {registry next : Registry} {answer : Except RegistryError Registry}
    (retuned : ∀ accepted, answer = .ok accepted → Registry.Retuned registry accepted)
    (changed : answer.toOption = some next) : Registry.Retuned registry next := by
  cases answer with
  | error error => contradiction
  | ok accepted =>
      rw [← Option.some.inj changed]
      exact retuned accepted rfl

theorem retuned_toggled? {live : Live} {target : String} {enabled : Bool} {registry : Registry}
    (changed : toggled? live target enabled = some registry) :
    Registry.Retuned live.registry registry := by
  unfold toggled? at changed
  split at changed
  · rw [← Option.some.inj changed]
    exact Registry.retuned_setAllEnabled live.registry enabled
  · exact retuned_of_toOption (fun _ => Registry.retuned_setEnabled) changed

theorem retuned_rules? {live : Live} {command : Command} {registry : Registry}
    (changed : command.rules? live = some registry) :
    Registry.Retuned live.registry registry := by
  cases command with
  | setState target state =>
      simp only [rules?] at changed
      split at changed
      · rw [← Option.some.inj changed]
        exact Registry.retuned_setAllStates live.registry state
      · exact retuned_of_toOption (fun _ => Registry.retuned_setState) changed
  | enable target => exact retuned_toggled? changed
  | disable target => exact retuned_toggled? changed
  | click clicker member memberName =>
      rw [← Option.some.inj changed]
      exact Registry.Retuned.refl live.registry

theorem retuned_perform (live : Live) (command : Command) :
    Registry.Retuned live.registry (command.perform live).2.registry := by
  cases found : command.change? live with
  | none =>
      rw [(refused_of_change? found).after]
      exact Registry.Retuned.refl live.registry
  | some changed =>
      obtain ⟨registry, accepted, same⟩ := change?_eq_some found
      rw [(saves_of_change? found).after, Live.registry_saveChange, same]
      exact retuned_rules? accepted

end Command

end AutoReply.Control
