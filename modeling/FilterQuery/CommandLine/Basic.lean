import FilterQuery.CommandLine.Arguments
import FilterQuery.System.Environment

/-!
# Command lines

A command line names a command.  The options that all commands share may stand in front of the name
and behind it, and what stands behind it wins.  Environment variables stand in for shared options
that are given in neither place; they are checked at every level that does not give the option.
-/

namespace FilterQuery

inductive Command
  /-- The request is the path of a file, or a hyphen. -/
  | compile (entity : String) (tableAlias : Option String) (request : String) (positional : Bool)
  | relations (entity : String)
  deriving DecidableEq, Repr

structure CommandLine where
  command : Command
  given : GivenSettings
  deriving DecidableEq, Repr

namespace Options

def configVariable : String := "PGFILTER_CONFIG"

def schemaVariable : String := "PGFILTER_SCHEMA"

def backendVariable : String := "PGFILTER_BACKEND"

def metricsVariable : String := "PGFILTER_METRICS"

def fromVariable {α : Type} (environment : Environment) (name : String) (slot : Option α)
    (value : String → Except UsageError α) : Except UsageError (Option α) :=
  match slot, environment.get? name with
  | none, some text => (value text).map some
  | _, _ => .ok none

def environmentSettings (options : Options) (environment : Environment) :
    Except UsageError GivenSettings := do
  return {
    config := ← fromVariable environment configVariable options.config pathValue
    schemaPath := ← fromVariable environment schemaVariable options.schemaPath pathValue
    backend := ← fromVariable environment backendVariable options.backend backendValue
    metrics := ← fromVariable environment metricsVariable options.metrics flagValue }

/-- The shared options of the two levels over the environment. -/
def shared (behind front : Options) (environment : GivenSettings) : GivenSettings where
  config := behind.config.or (front.config.or environment.config)
  schemaPath := behind.schemaPath.or (front.schemaPath.or environment.schemaPath)
  backend := behind.backend.or (front.backend.or environment.backend)
  metrics := behind.metrics.or (front.metrics.or environment.metrics)

def hasShared (options : Options) (environment : GivenSettings) : Bool :=
  (options.config.or environment.config).isSome ||
    (options.schemaPath.or environment.schemaPath).isSome ||
    (options.backend.or environment.backend).isSome ||
    (options.metrics.or environment.metrics).isSome

end Options

namespace CommandName

def command (name : CommandName) (options : Options) : Except UsageError Command :=
  match options.entity with
  | none => .error .missingArgument
  | some entity =>
      match name with
      | .compile =>
          .ok (.compile entity options.tableAlias (options.request.getD "-") options.positional)
      | .relations => .ok (.relations entity)

def readOptions (name : CommandName) :
    List String → ArgumentState → Except UsageError Options
  | [], state => return (← state.settle).options
  | text :: rest, state => do
      let level := Level.command name
      let next ← level.step state text rest
      name.readOptions rest next

end CommandName

namespace CommandLine

/-- Help may be asked for about one command, or about help. -/
def helpAbout : List String → UsageError
  | [] => .help
  | [name] =>
      if (CommandName.ofText? name).isSome || name == "help" then .help else .unknownCommand
  | _ => .unknownCommand

def withoutCommand (environment : Environment) (state : ArgumentState) :
    Except UsageError CommandLine := do
  let options := (← state.settle).options
  let set ← options.environmentSettings environment
  if options.hasShared set then .error .noCommand else .error .nothingGiven

/-- A command with the arguments behind its name.  What is wrong there is found before what was
left unchecked in front of it. -/
def withCommand (environment : Environment) (name : CommandName) (rest : List String)
    (state : ArgumentState) : Except UsageError CommandLine := do
  let behind ← name.readOptions rest .initial
  let set ← behind.environmentSettings environment
  let command ← name.command behind
  let front := (← state.settle).options
  let _ ← front.environmentSettings environment
  return { command := command, given := behind.shared front set }

def readFrom (environment : Environment) :
    List String → ArgumentState → Except UsageError CommandLine
  | [], state => withoutCommand environment state
  | text :: rest, state => do
      if !state.isWaiting && text == "help" then .error (helpAbout rest)
      else
        match if state.isWaiting then none else CommandName.ofText? text with
        | some name => withCommand environment name rest state
        | none =>
            let next ← Level.program.step state text rest
            readFrom environment rest next

def read (environment : Environment) (arguments : List String) :
    Except UsageError CommandLine :=
  readFrom environment arguments .initial

end CommandLine

end FilterQuery
