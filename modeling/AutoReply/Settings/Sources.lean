import AutoReply.Settings.Environment
import AutoReply.Settings.Fault
import AutoReply.Settings.JsonForm
import AutoReply.Settings.Profile
import AutoReply.Storage.Files
import AutoReply.Toml.Document

/-!
Where settings come from: the defaults, then files, then the environment, then settings that are
given outright. What comes later hides what came before.
-/

namespace AutoReply.Settings

open AutoReply.Storage AutoReply.Text

/-- The files, variables and folders outside the program. -/
structure Surroundings where
  files : Files
  environment : Environment
  /-- The folder for the settings of the user's programs, as it is written. -/
  userFolder : Option FilePath

/-- The folder for settings: its own variable names it by an absolute path, or else it lies in the
home folder. -/
def userFolderOf (files : Files) (environment : Environment) : Option FilePath :=
  match environment.lookup "XDG_CONFIG_HOME" with
  | some folder =>
      if folder.toList.head? == some '/' then some (written folder) else homeFolder
  | none => homeFolder
where
  written (folder : String) : FilePath := (Route.ofText files.workingFolder folder).fromRoot
  homeFolder : Option FilePath :=
    ((environment.lookup "HOME").filter fun home => !home.isEmpty).map fun home =>
      written home ++ [".config"]

def Surroundings.ofEnvironment (files : Files) (environment : Environment) : Surroundings :=
  ⟨files, environment, userFolderOf files environment⟩

structure Sources where
  /-- The profile, if it is not left to the environment. -/
  profile : Option Profile := none
  /-- The folders to search, as they are written; without any, the working folder and the user's. -/
  folders : List FilePath := []
  /-- The only file to read, in place of a search. -/
  file : Option String := none
  readsEnvironment : Bool := true
  merges : List Settings := []

def Surroundings.programFolder (surroundings : Surroundings) : Option FilePath :=
  surroundings.userFolder.map (· ++ ["amadeus"])

/-- A settings file to search for; its variant for a profile has the name of the profile before the
extension. -/
structure FileName where
  stem : String
  extension : String

def fileNames : List FileName := [⟨"amadeus", "toml"⟩, ⟨"config", "toml"⟩]

def FileName.base (file : FileName) : String :=
  file.stem ++ "." ++ file.extension

def FileName.variant (file : FileName) (profile : Profile) : String :=
  file.stem ++ "." ++ profile.name ++ "." ++ file.extension

/-- A profile may bring slashes and dots into the name of a file. -/
def inFolder (folder : FilePath) (name : String) : FilePath :=
  (Route.ofText folder name).fromRoot

def placeIn (files : Files) (folder : FilePath) (name : String) : FilePath :=
  files.walk [] (inFolder folder name)

/-- The files that a search reads, in order: each variant that is there, up to the first base file
that is there. -/
def foundFiles (files : Files) (profile : Profile) : List (FilePath × FileName) → List FilePath
  | [] => []
  | (folder, file) :: rest =>
      let variant := placeIn files folder (file.variant profile)
      let base := placeIn files folder file.base
      (if files.isThere variant then [variant] else []) ++
        if files.isThere base then [base] else foundFiles files profile rest

namespace Sources

def profileIn (sources : Sources) (environment : Environment) : Profile :=
  sources.profile.getD (.ofEnvironment environment)

def searchFolders (sources : Sources) (surroundings : Surroundings) : List FilePath :=
  if sources.folders.isEmpty then
    surroundings.files.workingFolder :: surroundings.programFolder.toList
  else sources.folders

def candidates (sources : Sources) (surroundings : Surroundings) : List (FilePath × FileName) :=
  (sources.searchFolders surroundings).flatMap fun folder => fileNames.map (folder, ·)

/-- The files that are looked for, as they are written. -/
def wanted (sources : Sources) (surroundings : Surroundings) : List FilePath :=
  let profile := sources.profileIn surroundings.environment
  match sources.file with
  | some written => [inFolder surroundings.files.workingFolder written]
  | none =>
      (sources.candidates surroundings).flatMap fun (folder, file) =>
        [inFolder folder (file.variant profile), inFolder folder file.base]

end Sources

/-- The extension of the last name of a path; none for a name without a stem. -/
def extensionOf (written : String) : String :=
  let names := (splitWhere (· == '/') written.toList).filter fun name => name != [] && name != ['.']
  match names.getLast? with
  | none | some ['.', '.'] => ""
  | some name =>
      match splitLast '.' name with
      | some (stem, extension) => if stem.isEmpty then "" else String.ofList extension
      | none => ""

/-- What a file sets; a folder sets nothing. -/
def readFileLayer (files : Files) (path : FilePath) : Except Fault Value :=
  match files.read path with
  | .error _ => .ok .emptyTable
  | .ok content =>
      match (textOf? content).bind fun text => Toml.document? text.toList with
      | some value => .ok value
      | none => .error (.malformed (Files.written path))

namespace Sources

def filesRead (sources : Sources) (surroundings : Surroundings) : Except Fault (List FilePath) :=
  let files := surroundings.files
  match sources.file with
  | none =>
      .ok (foundFiles files (sources.profileIn surroundings.environment)
        (sources.candidates surroundings))
  | some written =>
      let path := files.resolve written
      if !files.isThere path then .error (.fileNotFound written)
      else if extensionOf written = "toml" then .ok [path]
      else .error (.unsupportedFormat (extensionOf written))

def layers (sources : Sources) (surroundings : Surroundings) : Except Fault (List Value) := do
  let paths ← sources.filesRead surroundings
  let fileLayers ← paths.mapM (readFileLayer surroundings.files)
  let environmentLayer :=
    if sources.readsEnvironment then [ofEnvironment surroundings.environment] else []
  return [toValue {}] ++ fileLayers ++ environmentLayer ++ sources.merges.map toValue

/-- Loads the settings; whether they can be used is left to a check. -/
def load (sources : Sources) (surroundings : Surroundings) : Except Fault Settings := do
  let layers ← sources.layers surroundings
  (extract ⟨true⟩ (.layered layers)).mapError fun unfit => .unfit unfit.name

end Sources

end AutoReply.Settings
