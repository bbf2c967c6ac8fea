import AutoReply.Proofs.Console.Lines
import AutoReply.Proofs.Text.Lines
import AutoReply.Proofs.Text.Trimming

/-!
How operators reach the rules from a session. The target of a line is all that stands between its
verb and its end or its last word, so that every name can be told that has no blanks at its ends.
-/

namespace AutoReply

open AutoReply.Chat AutoReply.Control AutoReply.Rule AutoReply.Text

namespace Console

def gap (more : Nat) : String :=
  String.ofList (List.replicate (more + 1) ' ')

def IsTarget (text : String) : Prop :=
  BeginsSolid text.toList ∧ EndsSolid text.toList

/-- What can be told as a request: a state is a single word. -/
def IsTold : Control.Request → Prop
  | .state text => IsWord text.toList
  | .enabled _ => True

def verbOf : Control.Request → String
  | .state _ => "set"
  | .enabled true => "enable"
  | .enabled false => "disable"

def argumentsOf (target : String) (third : Nat) : Control.Request → String
  | .state text => target ++ gap third ++ text
  | .enabled _ => target

def requestLine (target : String) (first second third : Nat) (request : Control.Request) :
    String :=
  "/responses" ++ gap first ++ verbOf request ++ gap second ++ argumentsOf target third request

def AdminCommand.ofRequest (target : String) : Control.Request → AdminCommand
  | .state text => setState target text
  | .enabled true => enable target
  | .enabled false => disable target

theorem verbAndRest_padded {verb rest : List Char} (isVerb : IsWord verb)
    (begins : BeginsSolid rest) (ends : EndsSolid rest) (more : Nat) :
    verbAndRest (verb ++ ((gap more).toList ++ rest)) = (verb, rest) := by
  have spaces : (gap more).toList = ' ' :: List.replicate more ' ' := String.toList_ofList
  have trimmed : trim (List.replicate more ' ' ++ rest) = rest := by
    simpa using trim_padded begins ends more 0
  rw [verbAndRest, spaces, List.cons_append, splitFirst_append isVerb.space_notMem]
  simp only [trimmed]

theorem splitLast_padded {text state : List Char} (begins : BeginsSolid text)
    (ends : EndsSolid text) (isWord : IsWord state) (more : Nat) :
    ∃ before, splitLast ' ' (text ++ ((gap more).toList ++ state)) = some (before, state) ∧
      trim before = text := by
  have spaces : (gap more).toList = List.replicate more ' ' ++ [' '] :=
    String.toList_ofList.trans List.replicate_succ'
  refine ⟨text ++ List.replicate more ' ', ?_, by simpa using trim_padded begins ends 0 more⟩
  rw [spaces, List.append_assoc, List.singleton_append, ← List.append_assoc]
  exact splitLast_append isWord.space_notMem _

section

variable {target : String} (isTarget : IsTarget target) {request : Control.Request}
  (isTold : IsTold request)

theorem isWord_verbOf (request : Control.Request) : IsWord (verbOf request).toList := by
  match request with
  | .state _ => exact (⟨by decide, noBlank_of_any (by decide)⟩ : IsWord "set".toList)
  | .enabled true => exact ⟨by decide, noBlank_of_any (by decide)⟩
  | .enabled false => exact ⟨by decide, noBlank_of_any (by decide)⟩

include isTarget isTold

theorem solid_argumentsOf (third : Nat) : BeginsSolid (argumentsOf target third request).toList ∧
    EndsSolid (argumentsOf target third request).toList := by
  cases request with
  | enabled flag => exact isTarget
  | state text =>
      rw [argumentsOf, String.toList_append, String.toList_append, List.append_assoc]
      exact ⟨isTarget.1.append _, (IsWord.endsSolid isTold |>.append _).append _⟩

theorem ofChars_requestLine (second third : Nat) :
    AdminCommand.ofChars ((verbOf request).toList ++
        ((gap second).toList ++ (argumentsOf target third request).toList)) =
      .ofRequest target request := by
  obtain ⟨begins, ends⟩ := solid_argumentsOf isTarget isTold third
  simp only [AdminCommand.ofChars, verbAndRest_padded (isWord_verbOf request) begins ends,
    String.ofList_toList]
  match request, isTold with
  | .state text, isWord =>
      obtain ⟨before, split, trimmed⟩ := splitLast_padded isTarget.1 isTarget.2 isWord third
      simp only [argumentsOf, String.toList_append, List.append_assoc, split, trimmed,
        String.ofList_toList]
      rfl
  | .enabled true, _ => rfl
  | .enabled false, _ => rfl

theorem ofText_requestLine (first second third : Nat) :
    Line.ofText (requestLine target first second third request) =
      .admin (.ofRequest target request) := by
  have told := ofChars_requestLine isTarget isTold second third
  generalize rest : (verbOf request).toList ++
    ((gap second).toList ++ (argumentsOf target third request).toList) = inner at told
  have begins : BeginsSolid inner := rest ▸ (isWord_verbOf request).beginsSolid.append _
  have ends : EndsSolid inner :=
    rest ▸ ((solid_argumentsOf isTarget isTold third).2.append _).append _
  have written : (requestLine target first second third request).toList =
      "/responses".toList ++ ((gap first).toList ++ inner) := by
    simp only [requestLine, String.toList_append, List.append_assoc, rest]
  have whole : trim ("/responses".toList ++ ((gap first).toList ++ inner)) =
      "/responses".toList ++ ((gap first).toList ++ inner) :=
    trim_solid ⟨'/', rfl, by decide⟩ ((ends.append _).append _)
  have trimmed : trim ((gap first).toList ++ inner) = inner := by
    simpa [gap] using trim_padded begins ends (first + 1) 0
  simp only [Line.ofText, written, whole, afterStart_append, trimmed, told]

end

end Console

namespace Control.Request

structure ChangesOnly (live : Live) (request : Request) (before : List Response)
    (response : Response) (after : List Response) (outcome : Outcome AdminError String) : Prop where
  changed : ∀ changed, request.Grants response changed →
    outcome.live.registry.responses = before ++ changed :: after ∧ Accepts outcome.answer
  refused : (¬ ∃ changed, request.Grants response changed) →
    outcome.live = live ∧ ∃ error, outcome.answer = .error (.state error)
  rest : outcome.live =
    { live with registry := outcome.live.registry, storage := outcome.live.storage }

variable {live : Live} {target : String} {request : Request} {before after : List Response}
  {response : Response}

theorem Addresses.change_eq (addresses : Addresses live target before response after) :
    request.change live.registry target = match request.tryOn response with
      | .error error => .error (.state error)
      | .ok changed => .ok ⟨before ++ changed :: after⟩ := by
  have found : live.registry.get target = .ok response := by
    rw [Registry.get, addresses.lookup]
  have named : response.isNamed target = true := by
    simpa [Response.isNamed] using addresses.named
  have unnamed : ∀ other ∈ before, other.isNamed target = false := by
    intro other member
    simpa [Response.isNamed] using addresses.unnamed other member
  have registry : live.registry = ⟨before ++ response :: after⟩ := by
    rw [← addresses.split]
  have replaced (changed : Response) :
      live.registry.replace target changed = ⟨before ++ changed :: after⟩ := by
    rw [registry, ← Registry.replace_append after changed named unnamed]
  rw [change, if_neg (by simp [addresses.single]), found]
  dsimp only
  cases request.tryOn response with
  | error error => rfl
  | ok changed => exact congrArg Except.ok (replaced changed)

theorem Addresses.changesOnly (addresses : Addresses live target before response after) :
    ChangesOnly live request before response after (request.carryOut live target) := by
  have change := @Addresses.change_eq live target request before after response addresses
  cases tried : request.tryOn response with
  | error error =>
      rw [tried] at change
      have refuses := not_grants_of_error tried
      rw [carryOut_of_error change]
      exact ⟨fun changed grants => absurd ⟨changed, grants⟩ refuses,
        fun _ => ⟨rfl, error, rfl⟩, rfl⟩
  | ok accepted =>
      rw [tried] at change
      have grants := tryOn_eq_ok_iff.mp tried
      obtain ⟨text, later, _⟩ := carryOut_of_ok change
      refine ⟨fun changed grantsOther => ⟨?_, accepts_of_ok change⟩,
        fun refuses => absurd ⟨accepted, grants⟩ refuses, ?_⟩
      · have same : accepted = changed := by
          rw [← tryOn_eq_ok_iff, tried, Except.ok.injEq] at grantsOther
          exact grantsOther
        rw [later, Live.registry_saveChange, same]
      · rw [later]
        exact (Live.rest_saveChange _).trans (by rw [Live.registry_saveChange])

end Control.Request

namespace Console

open Control.Request

variable {session : Session} {target : String} {request : Control.Request}

theorem administer_ofRequest (allowed : session.service.live.authorize session.user = .ok ())
    (target : String) (request : Control.Request) :
    let outcome := request.carryOut session.service.live target
    session.administer (.ofRequest target request) =
      (session.withLive outcome.live, some (.rich (outcomeMessage outcome.answer))) := by
  simp only [Session.administer, allowed]
  cases request with
  | state text => rfl
  | enabled flag => cases flag <;> rfl

/-- The line of an operator does what it asks for and shows the answer, so that it reaches every
rule with a name that can be told, unless the name stands for all rules or an earlier rule has it,
too. -/
theorem lines_reach_rules (allowed : session.service.live.authorize session.user = .ok ())
    (isTarget : IsTarget target) (isTold : IsTold request) (first second third : Nat)
    (moment : Moment) :
    let live := session.service.live
    let outcome := request.carryOut live target
    session.answer moment (requestLine target first second third request) =
        (session.withLive outcome.live, [.rich (outcomeMessage outcome.answer)]) ∧
      ∀ before response after, live.registry.responses = before ++ response :: after →
        response.name = target → isAll target = false →
          (∀ other ∈ before, lower other.name ≠ lower target) →
            ChangesOnly live request before response after outcome := by
  constructor
  · simp only [Session.answer, ofText_requestLine isTarget isTold,
      administer_ofRequest allowed target request, Option.toList_some]
  · intro before response after split named single unnamed
    exact Addresses.changesOnly ⟨single, split, by rw [named], unnamed⟩

def wordySession : Session where
  arguments := {}
  service := .fresh {}
    ⟨[.plain "enable all" (.predicate "any" fun _ _ => true) .echo,
      .sendOrReact "set  all 1 react" (.predicate "any" fun _ _ => true) "Tina!" ⟨1⟩ .message,
      .sendOrReact "all" (.predicate "any" fun _ _ => true) "Tina!" ⟨1⟩ .message]⟩
    ⟨⟨[], []⟩, .memory {}⟩

theorem wordySession_reached :
    let live := wordySession.service.live
    let (later, replies) :=
      wordySession.answer Session.anyMoment "/responses  set set  all 1 react   react"
    live.authorize wordySession.user = .ok () ∧ IsTarget "set  all 1 react" ∧
      IsTold (.state "react") ∧ isAll "set  all 1 react" = false ∧
      replies = [.rich (.success "Successfully set response set  all 1 react to state react")] ∧
      later.service.live.registry.responses.map Response.state = ["N/A", "react", "message"] := by
  have allowed : wordySession.service.live.authorize wordySession.user = .ok () := rfl
  have isTarget : IsTarget "set  all 1 react" :=
    ⟨⟨'s', by decide, by decide⟩, 't', by decide, by decide⟩
  have isTold : IsTold (.state "react") := ⟨by decide, noBlank_of_any (by decide)⟩
  obtain ⟨answered, reached⟩ := lines_reach_rules allowed isTarget isTold 1 0 2 Session.anyMoment
  have line : requestLine "set  all 1 react" 1 0 2 (.state "react") =
      "/responses  set set  all 1 react   react" := by decide
  rw [line] at answered
  have only := reached [_] _ [_] rfl rfl (by decide) (by decide)
  have responses := (only.changed _ (@Grants.mode _ _ _ _ .react rfl)).1
  simp only [answered]
  refine ⟨allowed, isTarget, isTold, by decide, by decide, ?_⟩
  exact (congrArg (List.map Response.state) responses).trans (by decide)

end Console

end AutoReply
