import AutoReply.Text.Encoding
import AutoReply.Text.Parts

/-!
A tree of files and folders, and the operations of a save on it.
-/

namespace AutoReply.Storage

open AutoReply.Text

inductive FileError
  | notFound
  | alreadyThere
  | notFolder
  | isFolder
  deriving DecidableEq

def FileError.message : FileError → String
  | notFound => "No such file or directory (os error 2)"
  | alreadyThere => "File exists (os error 17)"
  | notFolder => "Not a directory (os error 20)"
  | isFolder => "Is a directory (os error 21)"

abbrev FilePath := List String

/-- A path as it is written, less the names that stay in place: names to follow from a folder, where
two dots lead back. At its end it may ask for a folder. -/
structure Route where
  start : FilePath
  names : List String
  asksFolder : Bool

namespace Route

def ofText (folder : FilePath) (written : String) : Route :=
  let parts := (splitWhere (· = '/') written.toList).map String.ofList
  let stays (part : String) : Bool := part = "" || part = "."
  { start := if written.toList.head? == some '/' then [] else folder
    names := parts.filter fun part => !stays part
    asksFolder := parts.getLast?.any stays }

/-- All names from the root on. -/
def fromRoot (route : Route) : FilePath :=
  route.start ++ route.names

/-- Two dots at the end name no file. -/
def fileName? (route : Route) : Option String :=
  route.names.getLast?.filter fun name => name ≠ ".."

def parent (route : Route) : Route :=
  { route with names := route.names.dropLast, asksFolder := false }

def withFileName (route : Route) (name : String) : Route :=
  { route with names := route.names.dropLast ++ [name], asksFolder := false }

end Route

inductive Content
  | folder
  | file (content : List Symbol)
  deriving DecidableEq

/-- Relative paths start at the working folder. The root is always there. -/
structure Files where
  workingFolder : FilePath
  entries : List (FilePath × Content)

namespace Files

def written (path : FilePath) : String :=
  "/" ++ "/".intercalate path

def contentAt (files : Files) (path : FilePath) : Option Content :=
  if path = [] then some .folder else files.entries.lookup path

/-- What is at a path; every place on the way has to be a folder. -/
def look (files : Files) (path : FilePath) : Except FileError Content :=
  let before := (List.range path.length).map fun count => files.contentAt (path.take count)
  match before.find? (· != some .folder) with
  | some (some _) => .error .notFolder
  | some none => .error .notFound
  | none =>
      match files.contentAt path with
      | some content => .ok content
      | none => .error .notFound

def put (files : Files) (path : FilePath) (content : Content) : Files :=
  { files with entries := (path, content) :: files.entries.filter fun entry => entry.1 != path }

def remove (files : Files) (path : FilePath) : Files :=
  { files with entries := files.entries.filter fun entry => entry.1 != path }

def isFolder (files : Files) (path : FilePath) : Bool :=
  match files.look path with
  | .ok .folder => true
  | _ => false

def isThere (files : Files) (path : FilePath) : Bool :=
  match files.look path with
  | .ok _ => true
  | .error _ => false

def read (files : Files) (path : FilePath) : Except FileError (List Symbol) :=
  match files.look path with
  | .ok (.file content) => .ok content
  | .ok .folder => .error .isFolder
  | .error error => .error error

/-- Goes on by a name. Two dots lead back out of a folder; behind anything else they lead nowhere. -/
def step (files : Files) (path : FilePath) (name : String) : FilePath :=
  if name = ".." && files.isFolder path then path.dropLast else path ++ [name]

def walk (files : Files) (start : FilePath) (names : List String) : FilePath :=
  names.foldl files.step start

/-- Where a route leads. Nothing is there if it asks for a folder and leads to something else. -/
def place (files : Files) (route : Route) : FilePath :=
  let reached := files.walk route.start route.names
  if route.asksFolder && !files.isFolder reached then reached ++ ["."] else reached

def resolve (files : Files) (written : String) : FilePath :=
  files.place (.ofText files.workingFolder written)

def makeFolder (files : Files) (path : FilePath) : Except FileError Files :=
  match files.look path with
  | .ok .folder => .ok files
  | .ok (.file _) => .error .alreadyThere
  | .error .notFound =>
      if files.isFolder path.dropLast then .ok (files.put path .folder) else .error .notFound
  | .error error => .error error

def write (files : Files) (path : FilePath) (content : List Symbol) : Except FileError Files :=
  match files.look path with
  | .ok .folder => .error .isFolder
  | .ok (.file _) => .ok (files.put path (.file content))
  | .error .notFound =>
      if files.isFolder path.dropLast then .ok (files.put path (.file content))
      else .error .notFound
  | .error error => .error error

def rename (files : Files) (source target : FilePath) : Except FileError Files :=
  match files.read source with
  | .error error => .error error
  | .ok content =>
      if files.isFolder target then .error .isFolder
      else if files.isFolder target.dropLast then
        .ok ((files.remove source).put target (.file content))
      else .error .notFolder

/-- What an operation leaves, with its error if it fails. -/
def leave (files : Files) : Except FileError Files → Files × Option FileError
  | .ok changed => (changed, none)
  | .error error => (files, some error)

/-- Makes the folder that the first names lead to. Where the one before it is missing, that one is
made first. -/
def makeFolders (files : Files) (start : FilePath) (names : List String) :
    Nat → Files × Option FileError
  | 0 => (files, none)
  | count + 1 =>
      let ahead := names.take (count + 1)
      match files.makeFolder (files.walk start ahead) with
      | .error .notFound =>
          match files.makeFolders start names count with
          | (before, none) => before.leave (before.makeFolder (before.walk start ahead))
          | failed => failed
      | made => files.leave made

end Files

end AutoReply.Storage
