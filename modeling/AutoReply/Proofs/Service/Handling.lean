import AutoReply.Proofs.Dispatch.Luck
import AutoReply.Proofs.Dispatch.Throttling
import AutoReply.Service

/-!
A bot at work on messages. Its own are counted and nothing else; all others are dispatched in order,
and each of them counts once as fired or not at all.
-/

namespace AutoReply

open AutoReply.Chat AutoReply.Rule

namespace Turn

def isOwn (turn : Turn) : Bool :=
  turn.event.author.id = turn.platform.id

def occurrence (turn : Turn) : Occurrence :=
  .dispatch turn.platform turn.luck turn.event

end Turn

def ownTurns (turns : List Turn) : List Turn :=
  turns.filter Turn.isOwn

def othersTurns (turns : List Turn) : List Turn :=
  turns.filter fun turn => !turn.isOwn

def firedIn (answers : List Answered) : List Answered :=
  answers.filter fun answered => answered.outcome.fired.isSome

def traceOf (answers : List Answered) : Trace :=
  answers.foldr (fun answered later => answered.outcome.trace ++ later) {}

namespace Stats

def plus (stats more : Stats) : Stats :=
  ⟨stats.received + more.received, stats.ignored + more.ignored, stats.fired + more.fired⟩

/-- The counts of so many messages, which begin at zero again behind the largest word. -/
def ofCounts (received ignored fired : Nat) : Stats :=
  ⟨.ofNat received, .ofNat ignored, .ofNat fired⟩

theorem plus_assoc (stats more others : Stats) :
    (stats.plus more).plus others = stats.plus (more.plus others) := by
  simp [plus, UInt64.add_assoc]

theorem zero_plus (stats : Stats) : plus {} stats = stats := by
  simp [plus]

theorem plus_zero (stats : Stats) : stats.plus (ofCounts 0 0 0) = stats := by
  simp [plus, ofCounts]

theorem ofCounts_plus (received ignored fired moreReceived moreIgnored moreFired : Nat) :
    (ofCounts received ignored fired).plus (ofCounts moreReceived moreIgnored moreFired) =
      ofCounts (received + moreReceived) (ignored + moreIgnored) (fired + moreFired) := by
  simp [plus, ofCounts, UInt64.ofNat_add]

end Stats

namespace Service

def handleTurns : List Turn → Service → Service × Trace
  | [], service => (service, {})
  | turn :: turns, service =>
      let (_, next, trace) := service.handle turn.platform turn.luck turn.event
      let (last, others) := handleTurns turns next
      (last, trace ++ others)

theorem handleAll_eq_handleTurns (platform : Platform) (events : List (Luck × MessageEvent))
    (service : Service) :
    service.handleAll platform events =
      service.handleTurns (events.map fun (luck, event) => ⟨platform, luck, event⟩) := by
  induction events generalizing service with
  | nil => rfl
  | cons message events ih => simp [handleAll, handleTurns, ih]

def after (service : Service) (registry : Registry) (counts : Stats) : Service :=
  { service with
    live := { service.live with registry }
    stats := service.stats.plus counts }

theorem after_after (service : Service) (registry later : Registry) (counts more : Stats) :
    (service.after registry counts).after later more = service.after later (counts.plus more) := by
  simp [after, Stats.plus_assoc]

theorem handle_own {turn : Turn} (own : turn.isOwn = true) (service : Service) :
    service.handle turn.platform turn.luck turn.event =
      (false, service.after service.live.registry (.ofCounts 1 1 0), {}) := by
  simp only [Turn.isOwn, decide_eq_true_eq] at own
  simp [handle, own, after, Stats.plus, Stats.ofCounts]

theorem handle_other {turn : Turn} (other : turn.isOwn = false) (service : Service) :
    let answered := turn.answer service.live.registry
    service.handle turn.platform turn.luck turn.event =
      (true, service.after answered.outcome.registry (.ofCounts 1 0 (firedIn [answered]).length),
        answered.outcome.trace) := by
  simp only [Turn.isOwn, decide_eq_false_iff_not] at other
  simp only [handle, other, if_false, Turn.answer, firedIn, List.filter_cons, List.filter_nil]
  split <;> simp [after, Stats.plus, Stats.ofCounts]

theorem length_firedIn_cons (answered : Answered) (answers : List Answered) :
    (firedIn (answered :: answers)).length =
      (firedIn [answered]).length + (firedIn answers).length := by
  simp only [firedIn, List.filter_cons, List.filter_nil]
  split <;> simp [Nat.add_comm]

theorem handleTurns_eq (turns : List Turn) (service : Service) :
    let others := othersTurns turns
    let answers := answerAll others service.live.registry
    service.handleTurns turns =
      (service.after (runRules (others.map Turn.occurrence) service.live.registry)
        (.ofCounts turns.length (ownTurns turns).length (firedIn answers).length),
        traceOf answers) := by
  induction turns generalizing service with
  | nil =>
      simp [handleTurns, othersTurns, ownTurns, firedIn, answerAll, traceOf, runRules, after,
        Stats.plus_zero]
  | cons turn turns ih =>
      simp only [handleTurns]
      cases own : turn.isOwn with
      | true =>
          have others : othersTurns (turn :: turns) = othersTurns turns := by
            simp [othersTurns, own]
          have owns : ownTurns (turn :: turns) = turn :: ownTurns turns := by
            simp [ownTurns, own]
          simp only [handle_own own, ih, after_after, Trace.empty_append, others, owns,
            Stats.ofCounts_plus, List.length_cons, Nat.add_comm 1, Nat.zero_add]
          rfl
      | false =>
          have others : othersTurns (turn :: turns) = turn :: othersTurns turns := by
            simp [othersTurns, own]
          have owns : ownTurns (turn :: turns) = ownTurns turns := by
            simp [ownTurns, own]
          simp only [handle_other own, ih, after_after, others, owns, Stats.ofCounts_plus,
            answerAll, length_firedIn_cons _ (answerAll _ _), List.length_cons, Nat.add_comm 1,
            Nat.zero_add]
          rfl

theorem attempts_traceOf_le (turns : List Turn) (registry : Registry) :
    (traceOf (answerAll turns registry)).attempts.length ≤ turns.length := by
  induction turns generalizing registry with
  | nil => simp [answerAll, traceOf]
  | cons turn turns ih =>
      have first := attempts_dispatch_le_one turn.platform turn.luck turn.event registry
      have rest := ih (turn.answer registry).outcome.registry
      simp only [answerAll, traceOf, List.foldr_cons, Trace.attempts_append, List.length_append,
        List.length_cons] at rest ⊢
      simp only [Turn.answer] at rest ⊢
      omega

theorem length_firedIn_le (turns : List Turn) (registry : Registry) :
    (firedIn (answerAll turns registry)).length ≤ turns.length := by
  refine (List.length_filter_le _ _).trans_eq ?_
  induction turns generalizing registry with
  | nil => rfl
  | cons turn turns ih => simp [answerAll, ih]

theorem length_own_add_others (turns : List Turn) :
    turns.length = (ownTurns turns).length + (othersTurns turns).length :=
  List.length_eq_length_filter_add Turn.isOwn

/-- The bot leaves its own messages alone, and its counts add up: every message is received, its own
are ignored, and of the others those fire for which the dispatch names a rule. All that happens, and
the rules with their records, are those of dispatching the messages of others. More messages of the
bot's own, wherever they come in, change two of the counts and nothing else. The counts are words, so
they begin at zero again behind the largest one. -/
theorem own_messages_only_counted (turns : List Turn) (service : Service) :
    let others := othersTurns turns
    let own := ownTurns turns
    let answers := answerAll others service.live.registry
    let last := (service.handleTurns turns).1
    let trace := (service.handleTurns turns).2
    let gained := Stats.ofCounts turns.length own.length (firedIn answers).length
    last.stats = service.stats.plus gained ∧
      (service.stats = {} → last.stats = gained) ∧
      (turns.length < UInt64.size → gained.received.toNat = turns.length ∧
        gained.ignored.toNat = own.length ∧ gained.fired.toNat = (firedIn answers).length ∧
        gained.ignored.toNat + gained.fired.toNat ≤ gained.received.toNat) ∧
      trace = traceOf answers ∧
      last.live = { service.live with
        registry := runRules (others.map Turn.occurrence) service.live.registry } ∧
      last.settings = service.settings ∧
      trace.attempts.length ≤ turns.length - own.length ∧
      ∀ more : List Turn, othersTurns more = others →
        let counted : Stats :=
          { gained with received := .ofNat more.length, ignored := .ofNat (ownTurns more).length }
        service.handleTurns more = ({ last with stats := service.stats.plus counted }, trace) := by
  intro others own answers last trace gained
  have run : service.handleTurns turns =
      (service.after (runRules (others.map Turn.occurrence) service.live.registry) gained,
        traceOf answers) := handleTurns_eq turns service
  have isLast : last = service.after _ gained := congrArg Prod.fst run
  have isTrace : trace = traceOf answers := congrArg Prod.snd run
  have stats : last.stats = service.stats.plus gained := by
    rw [isLast]
    rfl
  have total : turns.length = own.length + others.length := length_own_add_others turns
  have fired : (firedIn answers).length ≤ others.length :=
    length_firedIn_le others service.live.registry
  have attempts : (traceOf answers).attempts.length ≤ others.length :=
    attempts_traceOf_le others service.live.registry
  refine ⟨stats, ?fresh, ?fits, isTrace, ?live, ?settings, ?attempts, ?more⟩
  case fresh =>
    intro started
    rw [stats, started, Stats.zero_plus]
  case fits =>
    intro fits
    have received : gained.received.toNat = turns.length := UInt64.toNat_ofNat_of_lt' fits
    have ignored : gained.ignored.toNat = own.length := UInt64.toNat_ofNat_of_lt' (by omega)
    have exact : gained.fired.toNat = (firedIn answers).length :=
      UInt64.toNat_ofNat_of_lt' (by omega)
    exact ⟨received, ignored, exact, by omega⟩
  case live =>
    rw [isLast]
    rfl
  case settings =>
    rw [isLast]
    rfl
  case attempts =>
    rw [isTrace]
    omega
  case more =>
    intro more same
    rw [handleTurns_eq, same, isLast, isTrace]
    rfl

end Service

end AutoReply
