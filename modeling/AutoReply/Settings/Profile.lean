import AutoReply.Settings.Environment
import AutoReply.Text.Lowercase

/-!
Profiles: which variant of a settings file is read besides the file itself.
-/

namespace AutoReply.Settings

open AutoReply.Text

inductive Profile
  | development
  | production
  | custom (name : String)
  deriving DecidableEq

namespace Profile

def name : Profile → String
  | development => "development"
  | production => "production"
  | custom name => name

def ofName (name : String) : Profile :=
  let name := lower name
  if name = "production" || name = "prod" then production
  else if name = "development" || name = "dev" then development
  else custom name

def nameVariable : String := "AMADEUS_PROFILE"

def ofEnvironment (environment : Environment) : Profile :=
  match environment.lookup Profile.nameVariable with
  | some name => ofName name
  | none => development

end Profile

end AutoReply.Settings
