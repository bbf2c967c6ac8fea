import AutoReply.Proofs.Console.Turns
import AutoReply.Proofs.Service.Restore

/-!
The start of a session, turn by turn. Undisturbed it restores what was saved; and what it has made of
the rules is known at every stage.
-/

namespace AutoReply

open AutoReply.Chat AutoReply.Control AutoReply.Rule AutoReply.Storage

namespace SavedState

/-- Rules that have been restored in part: all of the first rules, the states of some more. -/
def halfway (saved : SavedState) (states flags : Nat) (rules : List Response) : List Response :=
  rules.mapIdx fun place rule =>
    if place < flags then saved.seed rule
    else if place < states then saved.restate rule
    else rule

variable (saved : SavedState) (rules : List Response) {states flags : Nat}

theorem length_halfway : (saved.halfway states flags rules).length = rules.length :=
  List.length_mapIdx

theorem halfway_zero : saved.halfway 0 0 rules = rules := by
  simp [halfway, List.mapIdx_eq_zipIdx_map, List.zipIdx_map_fst]

theorem halfway_restate (ordered : flags ≤ states) :
    (saved.halfway states flags rules).modify states saved.restate =
      saved.halfway (states + 1) flags rules := by
  refine List.ext_getElem? fun place => ?_
  simp only [halfway, List.getElem?_modify, List.getElem?_mapIdx]
  cases rules[place]? with
  | none => rfl
  | some rule =>
      by_cases here : states = place
      · subst here
        simp [Nat.not_lt.mpr ordered]
      · have later : place < states + 1 ↔ place < states := by omega
        simp [here, later]

theorem halfway_retoggle (ordered : flags < states) :
    (saved.halfway states flags rules).modify flags saved.retoggle =
      saved.halfway states (flags + 1) rules := by
  refine List.ext_getElem? fun place => ?_
  simp only [halfway, List.getElem?_modify, List.getElem?_mapIdx]
  cases rules[place]? with
  | none => rfl
  | some rule =>
      by_cases here : flags = place
      · subst here
        simp [ordered, seed]
      · have later : place < flags + 1 ↔ place < flags := by omega
        simp [here, later]

theorem halfway_all (all : rules.length ≤ flags) :
    saved.halfway states flags rules = rules.map saved.seed := by
  refine List.ext_getElem? fun place => ?_
  simp only [halfway, List.getElem?_mapIdx, List.getElem?_map]
  by_cases inside : place < rules.length
  · simp [List.getElem?_eq_getElem inside, show place < flags by omega]
  · simp [List.getElem?_eq_none (Nat.not_lt.mp inside)]

end SavedState

namespace Console

namespace Launch

variable (launch : Launch)

def adopted (saved : SavedState) (states flags : Nat) (rules : List Response) : Launch :=
  { launch.withLive { launch.service.live with clicks := saved.board, registry := ⟨rules⟩ } with
    stage := .adopting saved states flags }

variable {launch} {saved : SavedState} {states flags : Nat} {rules : List Response}

theorem take_state (more : states < rules.length) :
    (launch.adopted saved states flags rules).take .bot =
      (launch.adopted saved (states + 1) flags (rules.modify states saved.restate), []) :=
  congrArg (·, []) (if_pos more)

theorem take_flag (all : rules.length ≤ states) (more : flags < rules.length) :
    (launch.adopted saved states flags rules).take .bot =
      (launch.adopted saved states (flags + 1) (rules.modify flags saved.retoggle), []) :=
  congrArg (·, []) ((if_neg (Nat.not_lt.mpr all)).trans (if_pos more))

theorem take_adopted (allStates : rules.length ≤ states) (allFlags : rules.length ≤ flags) :
    (launch.adopted saved states flags rules).take .bot =
      ({ launch.adopted saved states flags rules with stage := .running (some saved) }, []) :=
  congrArg (·, []) ((if_neg (Nat.not_lt.mpr allStates)).trans (if_neg (Nat.not_lt.mpr allFlags)))

theorem takeAll_states {count : Nat} (within : states + count ≤ rules.length) :
    (launch.adopted saved states 0 (saved.halfway states 0 rules)).takeAll (.replicate count .bot) =
      (launch.adopted saved (states + count) 0 (saved.halfway (states + count) 0 rules), []) := by
  induction count generalizing states with
  | zero => rfl
  | succ count ih =>
      have more : states < (saved.halfway states 0 rules).length := by
        rw [SavedState.length_halfway]
        omega
      have next : states + 1 + count = states + (count + 1) := by omega
      simp only [List.replicate_succ, takeAll, take_state more,
        saved.halfway_restate rules (Nat.zero_le _), ih (next ▸ within), next, List.append_nil]

theorem takeAll_flags {count : Nat} (within : flags + count ≤ rules.length) :
    (launch.adopted saved rules.length flags (saved.halfway rules.length flags rules)).takeAll
        (.replicate count .bot) =
      (launch.adopted saved rules.length (flags + count)
        (saved.halfway rules.length (flags + count) rules), []) := by
  induction count generalizing flags with
  | zero => rfl
  | succ count ih =>
      have ordered : flags < rules.length := by omega
      have same : (saved.halfway rules.length flags rules).length = rules.length :=
        saved.length_halfway rules
      have next : flags + 1 + count = flags + (count + 1) := by omega
      simp only [List.replicate_succ, takeAll, take_flag same.le (same.symm ▸ ordered),
        saved.halfway_retoggle rules ordered, ih (next ▸ within), next, List.append_nil]

theorem takeAll_adopting (launch : Launch) (saved : SavedState) :
    (launch.adopted saved 0 0 launch.service.live.registry.responses).takeAll
        (.replicate (2 * launch.service.live.registry.responses.length + 1) .bot) =
      ({ launch.withLive (launch.service.adopt saved).1.live with
        stage := .running (some saved) }, []) := by
  generalize same : launch.service.live.registry.responses = rules
  have turns : List.replicate (2 * rules.length + 1) Turn.bot =
      .replicate rules.length .bot ++ (.replicate rules.length .bot ++ [.bot]) := by
    rw [← List.replicate_succ', List.replicate_append_replicate]
    congr 1
    omega
  have states := @takeAll_states launch saved 0 rules rules.length (by omega)
  have flags := @takeAll_flags launch saved 0 rules rules.length (by omega)
  have all : saved.halfway rules.length rules.length rules = rules.map saved.seed :=
    saved.halfway_all rules le_rfl
  simp only [Nat.zero_add, SavedState.halfway_zero, all] at states flags
  have last : (launch.adopted saved rules.length rules.length (rules.map saved.seed)).take .bot =
      _ := take_adopted (by simp) (by simp)
  rw [turns, takeAll_append, states, takeAll_append, flags]
  simp only [takeAll, last, List.append_nil, Service.adopt, saved.registry_seed, same]
  rfl

theorem found_cases (launch : Launch) :
    (launch.found = .running none ∧ launch.service.begin.1 = launch.service) ∨
    ∃ saved, launch.found = .loaded saved ∧
      launch.service.begin.1 = (launch.service.adopt saved).1 := by
  unfold found Service.begin
  split
  next =>
    by_cases loaded : ∃ saved, launch.service.live.storage.load.1 = .ok (some saved)
    · obtain ⟨saved, loaded⟩ := loaded
      exact .inr ⟨saved, by rw [loaded], (Service.restore_eq_adopt loaded).2⟩
    · have unloaded := Service.restore_of_unloaded (not_exists.mp loaded)
      refine .inl ⟨?_, unloaded.2⟩
      split
      next saved found => exact absurd ⟨saved, found⟩ loaded
      next => rfl
  next => exact .inl ⟨rfl, rfl⟩

/-- An undisturbed start restores what was saved. -/
theorem takeAll_startUps (launch : Launch) (loading : launch.stage = .loading)
    (idle : launch.waiting = []) : ∃ restored, launch.takeAll launch.startUps =
      ({ launch with
          session := { launch.session with service := launch.service.begin.1 }
          stage := .running restored }, []) := by
  have first : launch.take .bot = ({ launch with stage := launch.found }, []) := by
    simp only [take, work, startUp, loading]
  rcases launch.found_cases with ⟨found, same⟩ | ⟨saved, found, same⟩
  · refine ⟨none, ?_⟩
    rw [found] at first
    rw [same, startUps, List.replicate_succ, takeAll, first]
    simp only [@takeAll_idle { launch with stage := .running none } none rfl idle,
      List.append_nil]
    rfl
  · refine ⟨some saved, ?_⟩
    rw [found] at first
    have second : { launch with stage := .loaded saved }.take .bot =
      (launch.adopted saved 0 0 launch.service.live.registry.responses, []) := rfl
    rw [same, startUps, List.replicate_succ, takeAll, first, List.replicate_succ]
    simp only [takeAll, second, takeAll_adopting, List.append_nil]
    rfl

end Launch

/-- A session that reads no line before its start is over is a launch in which the bot attends to
each line before the next. -/
theorem Session.start_answerAll (arguments : Arguments) (surroundings : Settings.Surroundings)
    (lines : List (Moment × String)) :
    ((Session.start arguments surroundings).map fun session => session.answerAll lines) =
      (Launch.start arguments surroundings).map fun launch =>
        let (last, replies) := launch.takeAll (launch.startUps ++ inTurn lines)
        (last.session, replies) := by
  rw [Session.start_eq]
  unfold Launch.start
  cases Session.create arguments surroundings with
  | error error => rfl
  | ok created =>
      obtain ⟨restored, starts⟩ := Launch.takeAll_startUps { session := created } rfl rfl
      simp only [Except.map, Launch.takeAll_append, starts, List.nil_append]
      rw [Launch.takeAll_inTurn rfl rfl]
      rfl

def Stage.restored? : Stage → Option (Option SavedState)
  | loading => none
  | loaded saved => some (some saved)
  | adopting saved _ _ => some (some saved)
  | running restored => some restored

/-- What the rules are at a stage, if nothing but the start changes their states and flags. -/
def Stage.Rules (builtIn rules : List Response) : Stage → Prop
  | loading => rules = builtIn
  | loaded _ => rules = builtIn
  | adopting saved states flags =>
      flags ≤ states ∧ states ≤ builtIn.length ∧ (flags = 0 ∨ states = builtIn.length) ∧
        rules = saved.halfway states flags builtIn
  | running restored => rules.map Response.settings =
      (restored.elim builtIn fun saved => builtIn.map saved.seed).map Response.settings

namespace Launch

variable {launch : Launch}

theorem rules_startUp {builtIn : List Response}
    (starts : ∀ restored, launch.stage ≠ .running restored)
    (rules : launch.stage.Rules builtIn launch.service.live.registry.responses) :
    launch.startUp.stage.Rules builtIn launch.startUp.service.live.registry.responses := by
  unfold startUp
  cases stage : launch.stage with
  | running restored => exact absurd stage (starts restored)
  | loading =>
      rw [stage] at rules
      rcases launch.found_cases with ⟨found, _⟩ | ⟨saved, found, _⟩
      · simp only [found]
        exact congrArg (List.map Response.settings) rules
      · simp only [found]
        exact rules
  | loaded saved =>
      rw [stage] at rules
      exact ⟨le_rfl, Nat.zero_le _, .inl rfl, rules.trans (saved.halfway_zero builtIn).symm⟩
  | adopting saved states flags =>
      rw [stage] at rules
      obtain ⟨ordered, within, phase, same⟩ := rules
      have length : launch.service.live.registry.responses.length = builtIn.length := by
        rw [same, saved.length_halfway]
      -- The states of all rules come first, then the flags.
      by_cases more : states < launch.service.live.registry.responses.length
      · have none : flags = 0 := by omega
        simp only [more, if_true]
        refine ⟨by omega, by omega, .inl none, ?_⟩
        exact (congrArg (List.modify · states saved.restate) same).trans
          (saved.halfway_restate builtIn ordered)
      · have all : states = builtIn.length := by omega
        by_cases others : flags < launch.service.live.registry.responses.length
        · simp only [more, others, if_true, if_false]
          refine ⟨by omega, within, .inr all, ?_⟩
          exact (congrArg (List.modify · flags saved.retoggle) same).trans
            (saved.halfway_retoggle builtIn (by omega))
        · simp only [more, others, if_false]
          have done : builtIn.length ≤ flags := by omega
          exact congrArg (List.map Response.settings) (same.trans (saved.halfway_all builtIn done))

theorem restored?_take (launch : Launch) (turn : Turn) :
    (launch.take turn).1.stage.restored? = launch.stage.restored? ∨
      turn = .bot ∧ launch.stage = .loading ∧ (launch.take turn).1.stage = launch.found := by
  rcases launch.take_cases turn with ⟨history, known, waiting, same⟩ | ⟨rfl, _, same, starts⟩
  · left
    rw [same]
    rfl
  · rw [same]
    unfold startUp
    cases stage : launch.stage with
    | running restored => exact absurd stage (starts restored)
    | loading => exact .inr ⟨rfl, rfl, rfl⟩
    | loaded saved => exact .inl rfl
    | adopting saved states flags =>
        left
        simp only
        split
        · rfl
        · split <;> rfl

theorem found_of_restored? (loading : launch.stage = .loading) {turns : List Turn}
    {restored : Option SavedState}
    (known : (launch.after turns).stage.restored? = some restored) :
    ∃ before after, turns = before ++ .bot :: after ∧ (launch.after before).stage = .loading ∧
      (launch.after before).found.restored? = some restored := by
  induction turns using List.reverseRecOn with
  | nil =>
      have unknown : launch.stage.restored? = some restored := known
      rw [loading] at unknown
      contradiction
  | append_singleton turns turn ih =>
      have last : launch.after (turns ++ [turn]) = ((launch.after turns).take turn).1 := by
        rw [after_append]
        rfl
      rw [last] at known
      rcases (launch.after turns).restored?_take turn with same | ⟨rfl, still, found⟩
      · obtain ⟨before, after, rfl, rest⟩ := ih (same.symm.trans known)
        exact ⟨before, after ++ [turn], by simp, rest⟩
      · exact ⟨turns, [], rfl, still, found ▸ known⟩

end Launch

end Console

end AutoReply
