import Mathlib.Data.List.Basic
import AutoReply.Proofs.Text.Words
import AutoReply.Rule.Action

/-!
Roleplay messages. Every target gets a block from one of the templates, and luck can choose any
template for any target.
-/

namespace AutoReply.Rule

open AutoReply.Chat AutoReply.Text

/-! The templates that luck chooses for targets that follow each other. -/

def Luck.drawn (luck : Luck) (templates : List String) : (start count : Nat) → List String
  | _, 0 => []
  | start, count + 1 =>
      (luck.choose start templates).toList ++ luck.drawn templates (start + 1) count

section

variable {templates : List String} {luck : Luck} {start : Nat}

theorem Luck.exists_choose (luck : Luck) (number : Nat) (nonempty : templates ≠ []) :
    ∃ template, luck.choose number templates = some template := by
  have inside : luck.picks number % templates.length < templates.length :=
    Nat.mod_lt _ (List.length_pos_of_ne_nil nonempty)
  exact ⟨_, List.getElem?_eq_getElem inside⟩

theorem Luck.drawn_succ {template : String} (chosen : luck.choose start templates = some template)
    (count : Nat) :
    luck.drawn templates start (count + 1) = template :: luck.drawn templates (start + 1) count := by
  rw [drawn, chosen]
  rfl

theorem Luck.length_drawn (nonempty : templates ≠ []) (count : Nat) :
    (luck.drawn templates start count).length = count := by
  induction count generalizing start with
  | zero => rfl
  | succ count ih =>
      obtain ⟨template, chosen⟩ := luck.exists_choose start nonempty
      rw [drawn_succ chosen, List.length_cons, ih]

theorem Luck.mem_of_mem_drawn {count : Nat} {template : String}
    (member : template ∈ luck.drawn templates start count) : template ∈ templates := by
  induction count generalizing start with
  | zero => exact absurd member List.not_mem_nil
  | succ count ih =>
      rcases List.mem_append.mp member with first | later
      · exact List.mem_of_getElem? (Option.mem_toList.mp first)
      · exact ih later

theorem Luck.drawn_eq {chosen : List String}
    (chooses : ∀ number, number < chosen.length →
      luck.choose (start + number) templates = chosen[number]?) :
    luck.drawn templates start chosen.length = chosen := by
  induction chosen generalizing start with
  | nil => rfl
  | cons template chosen ih =>
      have first : luck.choose start templates = some template := by
        simpa using chooses 0 (Nat.succ_pos _)
      have later : luck.drawn templates (start + 1) chosen.length = chosen := by
        refine ih fun number inside => ?_
        rw [Nat.add_assoc, Nat.add_comm 1 number]
        simpa using chooses (number + 1) (Nat.succ_lt_succ inside)
      rw [List.length_cons, drawn_succ first, later]

theorem exists_drawn {chosen : List String}
    (offered : ∀ template ∈ chosen, template ∈ templates) :
    ∃ luck : Luck, luck.drawn templates 0 chosen.length = chosen := by
  refine ⟨⟨0, fun number => templates.idxOf (chosen.getD number "")⟩, Luck.drawn_eq ?_⟩
  intro number inside
  have place : templates.idxOf chosen[number] < templates.length :=
    List.idxOf_lt_length_of_mem (offered _ (List.getElem_mem inside))
  simp [Luck.choose, inside, Nat.mod_eq_of_lt place, place]

end

namespace Roleplay

def filled (play : Roleplay) (actor template target : String) : String :=
  Template.format template [play.decorate actor, play.decorate target]

def text (play : Roleplay) (actor : String) (chosen targets : List String) : String :=
  "\n\n".intercalate (List.zipWith (play.filled actor) chosen targets)

theorem blocks_eq {play : Roleplay} (nonempty : play.templates ≠ []) (luck : Luck)
    (actor : String) (targets : List String) (start : Nat) :
    ((targets.zipIdx start).filterMap fun (target, number) =>
        play.block luck actor number target) =
      List.zipWith (play.filled actor) (luck.drawn play.templates start targets.length)
        targets := by
  induction targets generalizing start with
  | nil => rfl
  | cons target targets ih =>
      obtain ⟨template, chosen⟩ := luck.exists_choose start nonempty
      have block : play.block luck actor start target = some (play.filled actor template target) := by
        rw [Roleplay.block, chosen]
        rfl
      simp only [List.zipIdx_cons, List.filterMap_cons, block, List.length_cons,
        Luck.drawn_succ chosen, List.zipWith_cons_cons, ih]

theorem render_eq {play : Roleplay} (nonempty : play.templates ≠ []) (bot : Bot) (luck : Luck)
    (event : MessageEvent) :
    play.render bot luck event =
      some (play.text event.author.name
        (luck.drawn play.templates 0 (targets bot event).length) (targets bot event)) := by
  rw [render, if_neg (by simpa using nonempty), text, ← blocks_eq nonempty]

/-- Whom a message is for: the users who are mentioned, else the words behind the first one, else
the bot. -/
inductive IsFor (bot : Bot) (event : MessageEvent) : List String → Prop
  | mentioned : event.mentions ≠ [] → IsFor bot event (event.mentions.map Mention.name)
  | named {command : List Char} {others : List (List Char)} :
      event.mentions = [] → HasWords event.text.toList (command :: others) → others ≠ [] →
        IsFor bot event (others.map String.ofList)
  | alone {words : List (List Char)} :
      event.mentions = [] → HasWords event.text.toList words → words.length ≤ 1 →
        IsFor bot event [bot.name]

theorem isFor_targets (bot : Bot) (event : MessageEvent) : IsFor bot event (targets bot event) := by
  have hasWords := hasWords_iff.mpr (rfl : words event.text.toList = _)
  by_cases mentions : event.mentions = []
  · unfold targets
    match listed : words event.text.toList with
    | [] =>
        rw [listed] at hasWords
        simpa [mentions] using IsFor.alone mentions hasWords (by simp)
    | [command] =>
        rw [listed] at hasWords
        simpa [mentions] using IsFor.alone mentions hasWords (by simp)
    | command :: other :: others =>
        rw [listed] at hasWords
        simpa [mentions] using IsFor.named mentions hasWords (List.cons_ne_nil other others)
  · have mentioned : IsFor bot event (event.mentions.map Mention.name) := .mentioned mentions
    simpa [targets, mentions] using mentioned

theorem IsFor.ne_nil {bot : Bot} {event : MessageEvent} {targets : List String}
    (isFor : IsFor bot event targets) : targets ≠ [] := by
  cases isFor with
  | mentioned nonempty => simpa using nonempty
  | named _ _ nonempty => simpa using nonempty
  | alone => exact List.cons_ne_nil _ _

structure Chosen (play : Roleplay) (targets chosen : List String) : Prop where
  length : chosen.length = targets.length
  offered : ∀ template ∈ chosen, template ∈ play.templates

end Roleplay

/-- A roleplay action sends one message with a block for each target, under templates that luck
chooses and could have chosen in any other way; without templates it does nothing. -/
theorem roleplay_outcomes (platform : Platform) (event : MessageEvent) (play : Roleplay) :
    let targets := Roleplay.targets platform.toBot event
    let send (chosen : List String) := attempt platform
      (.sendRich event.channel (.untitled (play.text event.author.name chosen targets)))
    Roleplay.IsFor platform.toBot event targets ∧ targets ≠ [] ∧
      (play.templates ≠ [] →
        (∀ luck, ∃ chosen, play.Chosen targets chosen ∧
          (Action.roleplay play).apply platform luck event = send chosen) ∧
        ∀ chosen, play.Chosen targets chosen →
          ∃ luck, (Action.roleplay play).apply platform luck event = send chosen) ∧
      (play.templates = [] → ∀ luck, ∃ note,
        (Action.roleplay play).apply platform luck event = (.ofEntry note, none)) := by
  intro targets send
  have isFor := Roleplay.isFor_targets platform.toBot event
  have sends (luck : Luck) (nonempty : play.templates ≠ []) :
      (Action.roleplay play).apply platform luck event =
        send (luck.drawn play.templates 0 targets.length) := by
    rw [Action.apply, Action.effect, Roleplay.render_eq nonempty]
  refine ⟨isFor, isFor.ne_nil, fun nonempty => ⟨fun luck => ?_, fun chosen isChosen => ?_⟩, ?_⟩
  · exact ⟨_, ⟨Luck.length_drawn nonempty _, fun _ => Luck.mem_of_mem_drawn⟩, sends luck nonempty⟩
  · obtain ⟨luck, drawn⟩ := exists_drawn isChosen.offered
    refine ⟨luck, ?_⟩
    rw [sends luck nonempty, ← isChosen.length, drawn]
  · intro empty luck
    have silent : play.render platform.toBot luck event = none := if_pos (by simpa using empty)
    rw [Action.apply, Action.effect, silent]
    exact ⟨_, rfl⟩

end AutoReply.Rule
