import FilterQuery.Config.Settings

/-!
# Options of the command line

The options that a command may be given, their spellings, and the values that they take.  An option
may be given once at each level of the command line: in front of the name of the command and behind
it.
-/

namespace FilterQuery

/-- Why a command line does not say what to do.  Asking for help or for the version is one way. -/
inductive UsageError
  | help
  | version
  | nothingGiven
  | noCommand
  | unknownCommand
  | unknownArgument
  | missingArgument
  | missingValue
  | unwantedValue
  | invalidValue
  | invalidBackend (text : String)
  | repeated
  deriving DecidableEq, Repr

/-- Only what was asked for is no failure. -/
def UsageError.exitCode : UsageError → Nat
  | .help | .version => 0
  | _ => 2

inductive ValueOption
  | config
  | schema
  | backend
  | metrics
  | entity
  | tableAlias
  | request
  deriving DecidableEq, Repr

inductive OptionName
  | value (option : ValueOption)
  | positional
  | help
  | version
  deriving DecidableEq, Repr

/-- A command is named between two levels of the command line. -/
inductive CommandName
  | compile
  | relations
  deriving DecidableEq, Repr

def CommandName.ofText? : String → Option CommandName
  | "compile" => some .compile
  | "relations" => some .relations
  | _ => none

inductive Level
  | program
  | command (name : CommandName)
  deriving DecidableEq, Repr

namespace Level

def sharedOption? : String → Option OptionName
  | "config" => some (.value .config)
  | "schema" => some (.value .schema)
  | "backend" => some (.value .backend)
  | "metrics" => some (.value .metrics)
  | "help" => some .help
  | _ => none

def option? (level : Level) (name : String) : Option OptionName :=
  (sharedOption? name).or
    (match level, name with
      | .program, "version" => some .version
      | .command _, "entity" => some (.value .entity)
      | .command .compile, "alias" => some (.value .tableAlias)
      | .command .compile, "request" => some (.value .request)
      | .command .compile, "positional" => some .positional
      | _, _ => none)

def longName? : Char → Option String
  | 'c' => some "config"
  | 's' => some "schema"
  | 'b' => some "backend"
  | 'h' => some "help"
  | 'V' => some "version"
  | 'e' => some "entity"
  | 'a' => some "alias"
  | 'r' => some "request"
  | _ => none

def letterOption? (level : Level) (letter : Char) : Option OptionName :=
  (longName? letter).bind level.option?

end Level

/-! ## Values -/

structure Options where
  config : Option String
  schemaPath : Option String
  backend : Option Backend
  metrics : Option Bool
  entity : Option String
  tableAlias : Option String
  request : Option String
  positional : Bool
  deriving DecidableEq, Repr

namespace Options

def empty : Options :=
  ⟨none, none, none, none, none, none, none, false⟩

def pathValue (text : String) : Except UsageError String :=
  if text.isEmpty then .error .invalidValue else .ok text

def backendValue (text : String) : Except UsageError Backend :=
  match Backend.parse? text with
  | some backend => .ok backend
  | none => .error (.invalidBackend text)

def flagValue : String → Except UsageError Bool
  | "true" => .ok true
  | "false" => .ok false
  | _ => .error .invalidValue

def once {α : Type} (slot : Option α) (value : Except UsageError α) :
    Except UsageError (Option α) :=
  if slot.isSome then .error .repeated else value.map some

def give (options : Options) (option : ValueOption) (text : String) :
    Except UsageError Options := do
  match option with
  | .config => return { options with config := ← once options.config (pathValue text) }
  | .schema => return { options with schemaPath := ← once options.schemaPath (pathValue text) }
  | .backend => return { options with backend := ← once options.backend (backendValue text) }
  | .metrics => return { options with metrics := ← once options.metrics (flagValue text) }
  | .entity => return { options with entity := ← once options.entity (.ok text) }
  | .tableAlias => return { options with tableAlias := ← once options.tableAlias (.ok text) }
  | .request => return { options with request := ← once options.request (.ok text) }

end Options

end FilterQuery
