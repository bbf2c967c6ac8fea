import AutoReply.SavedStateJson
import AutoReply.Storage.Files

/-!
Where saved states are kept: in memory or in a file. A file is written beside its place first and
then moved there, so that a save that stops halfway leaves the state before it.
-/

namespace AutoReply.Storage

open AutoReply.Text

inductive StoreError
  | io (path reason : String)
  | corrupt (path reason : String)
  deriving DecidableEq

def StoreError.message : StoreError → String
  | io path reason => "State file I/O failed for " ++ path ++ ": " ++ reason
  | corrupt path reason => "Corrupt state file " ++ path ++ ": " ++ reason

/-- A store in memory, whose loads and saves may fail. -/
structure Memory where
  content : Option SavedState := none
  /-- How many saves were tried, and how many succeeded. -/
  attempts : Nat := 0
  saves : Nat := 0
  loadFault : Option StoreError := none
  /-- The error of each attempt to save, if it fails. -/
  saveFault : Nat → Option StoreError := fun _ => none

inductive Store
  | memory (memory : Memory)
  | file (path : String)

def Memory.save (memory : Memory) (saved : SavedState) : Memory × Option StoreError :=
  let tried := { memory with attempts := memory.attempts + 1 }
  match memory.saveFault memory.attempts with
  | some error => (tried, some error)
  | none => ({ tried with content := some saved, saves := memory.saves + 1 }, none)

def withExtension (extension name : String) : String :=
  match splitLast '.' name.toList with
  | some (stem, _) =>
      if stem.isEmpty then name ++ "." ++ extension
      else String.ofList stem ++ "." ++ extension
  | none => name ++ "." ++ extension

def Route.temporary (route : Route) : Route :=
  match route.fileName? with
  | some name => route.withFileName (withExtension "json.tmp" name)
  | none => route

/-- The steps of a save. -/
inductive Step
  | makeFolders (route : Route)
  | write (route : Route) (content : List Symbol)
  | rename (source target : Route)

def Step.run (files : Files) : Step → Files × Option FileError
  | makeFolders route => files.makeFolders route.start route.names route.names.length
  | write route content => files.leave (files.write (files.place route) content)
  | rename source target => files.leave (files.rename (files.place source) (files.place target))

def saveSteps (route : Route) (saved : SavedState) : List Step :=
  [.makeFolders route.parent, .write route.temporary (symbols saved.fileText),
    .rename route.temporary route]

/-- Runs steps up to the first one that fails; what has been done until then stays. -/
def runSteps (files : Files) : List Step → Files × Option FileError
  | [] => (files, none)
  | step :: steps =>
      match step.run files with
      | (changed, none) => runSteps changed steps
      | failed => failed

def savedEntry (path : String) : Entry :=
  { severity := .info, message := "Saved response state", fields := [("path", .text path)] }

def noStateEntry (path : String) : Entry :=
  { severity := .debug, message := "No saved state", fields := [("path", .text path)] }

/-- Loads from a file; a missing file holds no state. -/
def loadFile (files : Files) (path : String) : Except StoreError (Option SavedState) × Journal :=
  match files.read (files.resolve path) with
  | .error .notFound => (.ok none, [noStateEntry path])
  | .error error => (.error (.io path error.message), [])
  | .ok content =>
      match SavedState.ofJsonText content with
      | .ok saved => (.ok (some saved), [])
      | .error fault => (.error (.corrupt path (fault.message content)), [])

def saveFile (files : Files) (path : String) (saved : SavedState) :
    Files × Option StoreError × Journal :=
  match runSteps files (saveSteps (.ofText files.workingFolder path) saved) with
  | (files, none) => (files, none, [savedEntry path])
  | (files, some error) => (files, some (.io path error.message), [])

end AutoReply.Storage

namespace AutoReply

open AutoReply.Storage

/-- The files and the store. -/
structure Storage where
  files : Files
  store : Store

namespace Storage

def load (storage : Storage) : Except StoreError (Option SavedState) × Journal :=
  match storage.store with
  | .memory memory =>
      match memory.loadFault with
      | some error => (.error error, [])
      | none => (.ok memory.content, [])
  | .file path => loadFile storage.files path

def save (storage : Storage) (saved : SavedState) : Storage × Option StoreError × Journal :=
  match storage.store with
  | .memory memory =>
      let (memory, failure) := memory.save saved
      ({ storage with store := .memory memory }, failure, [])
  | .file path =>
      let (files, failure, journal) := saveFile storage.files path saved
      ({ storage with files }, failure, journal)

end Storage

end AutoReply
