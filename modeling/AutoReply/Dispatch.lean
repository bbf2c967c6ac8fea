import AutoReply.Registry

/-!
Answering a message: the first enabled rule whose condition holds is applied, and the rules behind
it are left alone.
-/

namespace AutoReply

open AutoReply.Chat AutoReply.Rule

/-- The name of the rule that fired, the rules with their new records, and what happened. -/
structure Dispatched where
  fired : Option String
  registry : Registry
  trace : Trace

def matchedEntry (response : Response) : Entry :=
  { severity := .debug
    message := "Response matched, stopping dispatch"
    fields := [("response", .text response.name), ("action", .text response.activeAction.label)] }

def failedEntry (response : Response) (error : ApiError) : Entry :=
  { severity := .warning
    message := "Response action failed"
    fields := [("response", .text response.name), ("error", .text error.message)] }

/-- Applies a rule whose condition holds; a failure is noted and changes nothing else. -/
def fire (platform : Platform) (luck : Luck) (event : MessageEvent) (response : Response) : Trace :=
  let (trace, failure) := response.apply platform luck event
  let noted : Trace := match failure with
    | some error => .ofEntry (failedEntry response error)
    | none => {}
  .ofEntry (matchedEntry response) ++ trace ++ noted

def dispatchFrom (platform : Platform) (luck : Luck) (event : MessageEvent) :
    List Response → Option String × List Response × Trace
  | [] => (none, [], {})
  | response :: rest =>
      let checked := response.check platform event
      if checked.matched then
        (some response.name, checked.next :: rest,
          checked.trace ++ fire platform luck event checked.next)
      else
        let (fired, others, trace) := dispatchFrom platform luck event rest
        (fired, checked.next :: others, checked.trace ++ trace)

def dispatch (platform : Platform) (luck : Luck) (event : MessageEvent) (registry : Registry) :
    Dispatched :=
  let (fired, responses, trace) := dispatchFrom platform luck event registry.responses
  ⟨fired, ⟨responses⟩, trace⟩

end AutoReply
