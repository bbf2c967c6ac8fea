import AutoReply.Console.Launch
import Std.Time.Zoned

/-!
The command line: a session on standard input and output, with the settings, the state file and the
clock of the machine. All that the session decides is decided on values; here they are fetched and
put back.
-/

namespace AutoReply.CommandLine

open AutoReply.Console AutoReply.Settings AutoReply.Storage AutoReply.Text AutoReply.Time

/-- The variables in a block of `NAME=value` texts, each of which a zero ends. -/
def environmentOf (block : List Symbol) : Environment :=
  let texts := splitWhere (· == '\x00') (block.map fun symbol => symbol.getD '\ufffd')
  .ofList (texts.filterMap fun text => (splitFirst '=' text).map fun (name, value) =>
    (String.ofList name, String.ofList value))

def fetchEnvironment : IO Environment := do
  let block ← try IO.FS.readBinFile "/proc/self/environ" catch _ => pure ByteArray.empty
  return environmentOf (decode block.toList)

/-- What the disk holds at a path; nothing, if that cannot be found out. -/
def fetchContent (path : FilePath) : IO (Option Content) := do
  let place := (← IO.currentDir) / Files.written path
  if ← place.isDir then return some .folder
  try
    let bytes ← IO.FS.readBinFile place
    return some (.file (decode bytes.toList))
  catch _ => return none

def fetchPlace (files : Files) (path : FilePath) : IO Files := do
  if (files.contentAt path).isSome then return files
  match ← fetchContent path with
  | some content => return files.put path content
  | none => return files

/-- Fetches all that is on the way by the names of a path, and what the path leads to. -/
def fetch (files : Files) (names : FilePath) : IO Files := do
  let (files, _) ← names.foldlM (fun (files, path) name => do
    let path := files.step path name
    return (← fetchPlace files path, path)) (files, [])
  return files

/-- The part of the machine that a session looks at: the settings files and the state file. -/
def fetchSurroundings (arguments : Arguments) : IO Surroundings := do
  let environment ← fetchEnvironment
  let workingFolder := (Route.ofText [] (← IO.currentDir).toString).names
  let bare := Surroundings.ofEnvironment ⟨workingFolder, []⟩ environment
  let files ← (arguments.sources.wanted bare).foldlM fetch bare.files
  match arguments.sources.load { bare with files } with
  | .error _ => return { bare with files }
  | .ok settings =>
      let route := Route.ofText workingFolder settings.state.path
      return { bare with files := ← [route.fromRoot, route.temporary.fromRoot].foldlM fetch files }

/-- The present day by the clock on the wall, or by universal time where no zone is known. -/
def today (time : Timestamp) : IO Date := do
  try
    let date := (← Std.Time.DateTime.now).toPlainDate
    return ⟨date.year, date.month.toNat, date.day.toNat⟩
  catch _ => return .ofDays (time.seconds / 86400)

def momentOf (received : Nat) : IO Moment := do
  let nanos := (← Std.Time.Timestamp.now).toNanosecondsSinceUnixEpoch.val
  let time : Timestamp := ⟨nanos / nanosInSecond, (nanos % nanosInSecond).toNat⟩
  let bytes ← IO.getRandomBytes 8
  let seed := bytes.foldl (fun word byte => word * 256 + byte.toUInt64) (0 : UInt64)
  let waited := (← IO.monoNanosNow) - received
  return {
    time, day := ← today time, luck := .ofSeed seed
    waited := (waited / nanosInSecond, waited % nanosInSecond) }

/-- Writes what an answer changed, files by way of the temporary one; tells why if that fails. -/
def putBack (before after : Files) (temporary : FilePath) : IO (Option String) := do
  let changed := after.entries.filter fun entry => before.contentAt entry.1 != some entry.2
  try
    for (path, content) in changed.reverse do
      match content with
      | .folder => IO.FS.createDirAll (Files.written path)
      | .file content =>
          IO.FS.writeFile (Files.written temporary) ((textOf? content).getD "")
          IO.FS.rename (Files.written temporary) (Files.written path)
    return none
  catch error => return some error.toString

/-- Answers a line. An answer that cannot be saved on the disk gives way to the one that says so. -/
def respond (launch : Launch) (line : String) (received : Nat) : IO (Launch × List Reply) := do
  let moment ← momentOf received
  let answer (launch : Launch) := launch.takeAll (inTurn [(moment, line)])
  let storing (launch : Launch) (store : Store) : Launch :=
    { launch with session := launch.session.withStore store }
  let (next, replies) := answer launch
  let written := launch.service.settings.state.path
  let before := launch.service.live.storage.files
  let after := next.service.live.storage.files
  let temporary := after.place (Route.ofText after.workingFolder written).temporary
  match ← putBack before after temporary with
  | none => return (next, replies)
  | some reason =>
      let store : Store := .memory { saveFault := fun _ => some (.io written reason) }
      let (next, replies) := answer (storing launch store)
      return (storing next (.file written), replies)

/-- Answers line after line, up to the end of the input or a line that is no text. -/
partial def converse (input output : IO.FS.Stream) (launch : Launch) : IO Unit := do
  let line ← try input.getLine catch _ => pure ""
  let received ← IO.monoNanosNow
  unless line.isEmpty do
    let (launch, replies) ← respond launch line received
    for reply in replies do
      output.putStr (reply.line launch.session.bot.name ++ "\n")
    output.flush
    converse input output launch

def run (arguments : List String) : IO UInt32 := do
  match Request.ofArguments arguments with
  | .error error =>
      IO.eprintln ("error: " ++ error.message ++ "\n\nFor more information, try '--help'.")
      return 2
  | .ok .help => IO.print helpText; return 0
  | .ok .version => IO.print versionText; return 0
  | .ok (.talk arguments) =>
      match Launch.start arguments (← fetchSurroundings arguments) with
      | .error error =>
          IO.eprintln ("Error: " ++ error.message)
          return 1
      | .ok launch =>
          let (started, _) := launch.takeAll launch.startUps
          converse (← IO.getStdin) (← IO.getStdout) started
          return 0

end AutoReply.CommandLine

def main (arguments : List String) : IO UInt32 :=
  AutoReply.CommandLine.run arguments
