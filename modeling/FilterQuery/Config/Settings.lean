import FilterQuery.Config.Document
import FilterQuery.System.Files

/-!
# Settings

The settings of a run come in layers: the command line, an overlay file, the profile file in the
home directory, and defaults.  Each setting is taken from the highest layer that has it.  The
overlay is the file that the command line names, which has to be there, or else a local file, which
may be missing like the profile.
-/

namespace FilterQuery

structure Settings where
  schemaPath : Option String
  backend : Backend
  positional : Bool
  metrics : Bool
  deriving DecidableEq, Repr

/-- What the command line sets, and the overlay that it names. -/
structure GivenSettings where
  config : Option String
  schemaPath : Option String
  backend : Option Backend
  metrics : Option Bool
  deriving DecidableEq, Repr

inductive ConfigError
  | missing (path : String)
  | unreadable (path : String) (problem : SystemError)
  | invalid (path : String) (problem : ReadError)
  | noSchema
  deriving DecidableEq, Repr

namespace Settings

def folderName : String := ".pgfilter"

def fileName : String := "pgfilter.json"

def profilePath (directories : Directories) : String :=
  Path.join (Path.join directories.home folderName) fileName

/-- The overlay is found at the path that was given, or beside the user. -/
def overlayPath (directories : Directories) (given : GivenSettings) : String :=
  match given.config with
  | some path => Path.expand directories path
  | none => fileName

end Settings

namespace ConfigError

def context : ConfigError → String
  | .missing path => "Config file not found: " ++ path
  | .unreadable path _ => "Failed to read config file: " ++ path
  | .invalid path _ => "Failed to parse config file: " ++ path
  | .noSchema =>
      "No schema catalog configured. Pass --schema or set schema.path in " ++ Settings.fileName

def message (error : ConfigError) : String :=
  match error with
  | .missing _ | .noSchema => error.context
  | .unreadable _ problem => error.context ++ ": " ++ problem.message
  | .invalid _ problem => error.context ++ ": " ++ problem.message

end ConfigError

namespace FileSettings

def ofFile (path : String) (file : FileState) : Except ConfigError FileSettings :=
  match file.read with
  | .error problem => .error (.unreadable path problem)
  | .ok text => (parse path text).mapError (.invalid path)

def ofOptionalFile (path : String) (file : FileState) : Except ConfigError FileSettings :=
  if file.exists? then ofFile path file else .ok nothing

def ofRequiredFile (path : String) (file : FileState) : Except ConfigError FileSettings :=
  if file.exists? then ofFile path file else .error (.missing path)

end FileSettings

namespace Settings

def ofLayers (directories : Directories) (given : GivenSettings) (file : FileSettings) :
    Settings where
  schemaPath := (given.schemaPath.or file.schemaPath).map (Path.expand directories)
  backend := (given.backend.or file.backend).getD .default
  positional := file.positional.getD false
  metrics := (given.metrics.or file.metrics).getD false

/-- The settings of a run, from what was found at the paths of the profile and of the overlay. -/
def load (directories : Directories) (given : GivenSettings) (profile overlay : FileState) :
    Except ConfigError Settings := do
  let lower ← FileSettings.ofOptionalFile (profilePath directories) profile
  let path := overlayPath directories given
  let higher ←
    if given.config.isSome then FileSettings.ofRequiredFile path overlay
    else FileSettings.ofOptionalFile path overlay
  return ofLayers directories given (higher.layeredOver lower)

def requireSchema (settings : Settings) : Except ConfigError String :=
  match settings.schemaPath with
  | some path => .ok path
  | none => .error .noSchema

end Settings

end FilterQuery
