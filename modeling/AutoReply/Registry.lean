import AutoReply.HashMap
import AutoReply.Rule.Response

/-!
The rules in their order, and the ways to look them up and to change their settings. Responses are
never added or removed while the bot runs.
-/

namespace AutoReply

open AutoReply.Rule AutoReply.Text

inductive RegistryError
  | notFound (name : String)
  | state (error : StateError)
  deriving DecidableEq

def RegistryError.message : RegistryError → String
  | notFound name => "cannot find response " ++ name
  | state error => error.message

structure Summary where
  name : String
  enabled : Bool
  state : String
  deriving DecidableEq

/-- An entry that an update left out, and why. -/
structure Skipped where
  name : String
  reason : String
  deriving DecidableEq

/-- What an update of many rules did. -/
structure BulkReport where
  applied : List String := []
  skipped : List Skipped := []
  deriving DecidableEq

namespace BulkReport

def isClean (report : BulkReport) : Bool :=
  report.skipped.isEmpty

def append (earlier later : BulkReport) : BulkReport :=
  ⟨earlier.applied ++ later.applied, earlier.skipped ++ later.skipped⟩

instance : Append BulkReport := ⟨append⟩

def ofApplied (name : String) : BulkReport := { applied := [name] }

def ofSkipped (name reason : String) : BulkReport := { skipped := [⟨name, reason⟩] }

end BulkReport

/-- The rules in order of preference. -/
structure Registry where
  responses : List Response

namespace Registry

def lookup (registry : Registry) (name : String) : Option Response :=
  registry.responses.find? fun response => response.isNamed name

def get (registry : Registry) (name : String) : Except RegistryError Response :=
  match registry.lookup name with
  | some response => .ok response
  | none => .error (.notFound name)

def changeFirst (test : Response → Bool) (change : Response → Response) :
    List Response → List Response
  | [] => []
  | response :: rest =>
      if test response then change response :: rest
      else response :: changeFirst test change rest

def replace (registry : Registry) (name : String) (changed : Response) : Registry :=
  ⟨changeFirst (fun response => response.isNamed name) (fun _ => changed) registry.responses⟩

def setState (registry : Registry) (name state : String) : Except RegistryError Registry :=
  match registry.get name with
  | .error error => .error error
  | .ok response =>
      match response.setState state with
      | .error error => .error (.state error)
      | .ok changed => .ok (registry.replace name changed)

def setEnabled (registry : Registry) (name : String) (enabled : Bool) :
    Except RegistryError Registry :=
  (registry.get name).map fun response => registry.replace name (response.setEnabled enabled)

/-- The first of the entries with the smallest key. -/
def minByKey? {α : Type} : List (String × α) → Option (String × α)
  | [] => none
  | first :: rest =>
      some (rest.foldl (fun least entry => if entry.1 < least.1 then entry else least) first)

/-- The entry of a name: that of the very name, else of the smallest key that differs only in
case. -/
def entryFor {α : Type} (entries : HashMap String α) (name : String) : Option α :=
  match entries.lookup name with
  | some value => some value
  | none =>
      (minByKey? (entries.entries.filter fun entry => lower entry.1 == lower name)).map Prod.snd

/-- What one step of an update did: the rule, the report and the journal. -/
structure Step where
  response : Response
  report : BulkReport := {}
  journal : Journal := []

def collect (steps : List Step) : Registry × BulkReport × Journal :=
  (⟨steps.map Step.response⟩, steps.foldr (fun step report => step.report ++ report) {},
    steps.flatMap Step.journal)

def unknownEntry (name : String) : Entry :=
  { severity := .debug
    message := "Skipping entry for unknown response"
    fields := [("response", .text name)] }

def rejectedEntry (response : Response) (state : String) (error : StateError) : Entry :=
  { severity := .debug
    message := "Skipping state entry"
    fields :=
      [("response", .text response.name), ("state", .text state),
        ("error", .text error.message)] }

def unknownKeys {α : Type} (registry : Registry) (entries : HashMap String α) : List String :=
  (entries.keys.filter fun name => (registry.lookup name).isNone).mergeSort

def reportUnknown {α : Type} (registry : Registry) (entries : HashMap String α) :
    BulkReport × Journal :=
  let unknown := registry.unknownKeys entries
  (⟨[], unknown.map fun name => ⟨name, (RegistryError.notFound name).message⟩⟩,
    unknown.map unknownEntry)

def bulkApply {α : Type} (registry : Registry) (entries : HashMap String α)
    (apply : Response → α → Step) : Registry × BulkReport × Journal :=
  let (changed, report, journal) := collect (registry.responses.map fun response =>
    match entryFor entries response.name with
    | none => { response }
    | some value => apply response value)
  let (unknown, notes) := registry.reportUnknown entries
  (changed, report ++ unknown, journal ++ notes)

def tryState (response : Response) (state : String) : Except StateError Response × BulkReport :=
  match response.setState state with
  | .ok changed => (.ok changed, .ofApplied response.name)
  | .error error => (.error error, .ofSkipped response.name error.message)

def bulkSetStates (registry : Registry) (states : HashMap String String) :
    Registry × BulkReport × Journal :=
  registry.bulkApply states fun response state =>
    match tryState response state with
    | (.ok changed, report) => { response := changed, report }
    | (.error error, report) =>
        { response, report, journal := [rejectedEntry response state error] }

def bulkSetEnabled (registry : Registry) (flags : HashMap String Bool) :
    Registry × BulkReport × Journal :=
  registry.bulkApply flags fun response enabled =>
    { response := response.setEnabled enabled, report := .ofApplied response.name }

def setAllStates (registry : Registry) (state : String) : Registry × BulkReport :=
  let (changed, report, _) := collect (registry.responses.map fun response =>
    match tryState response state with
    | (.ok changed, report) => { response := changed, report }
    | (.error _, report) => { response, report })
  (changed, report)

def setAllEnabled (registry : Registry) (enabled : Bool) : Registry :=
  ⟨registry.responses.map fun response => response.setEnabled enabled⟩

def snapshotStates (registry : Registry) : SortedMap String String :=
  .ofList (registry.responses.map fun response => (response.name, response.state))

def snapshotEnabled (registry : Registry) : SortedMap String Bool :=
  .ofList (registry.responses.map fun response => (response.name, response.enabled))

def summaries (registry : Registry) : List Summary :=
  registry.responses.map fun response => ⟨response.name, response.enabled, response.state⟩

end Registry

end AutoReply
