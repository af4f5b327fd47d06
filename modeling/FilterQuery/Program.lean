import FilterQuery.Metrics.Text
import FilterQuery.Session.Basic

/-!
# The program

A run reads the file of variables, the command line, the settings, the catalog and the request, in
this order, and ends at the first of them that is wrong.  It reads files through its surroundings,
which may be the system or files in memory.
-/

namespace FilterQuery

/-- What a run can see of the world. -/
structure Surroundings (m : Type → Type) where
  directories : Directories
  environment : Environment
  fileAt : String → m FileState
  input : m FileState
  /-- Computes a value and measures how many seconds that takes. -/
  timed : {α : Type} → (Unit → α) → m (α × Binary64)

/-- How a run ends.  It is aborted where a variable cannot be set. -/
inductive Outcome
  | aborted
  | misused (error : UsageError)
  | failed (error : SessionError)
  | answered (answer : Json) (metrics : Option Metrics)

namespace Outcome

def exitCode : Outcome → Nat
  | .aborted => 101
  | .misused error => error.exitCode
  | .failed _ => 1
  | .answered .. => 0

def versionText : String := "pgfilter 0.3.0"

def output : Outcome → String
  | .misused .version => versionText ++ "\n"
  | .aborted | .misused _ | .failed _ => ""
  | .answered answer _ => answer.indented 0 ++ "\n"

def report : Outcome → String
  | .aborted => "failed to set environment variable\n"
  | .misused _ => ""
  | .failed error => "\nError: " ++ error.message ++ "\n\n"
  | .answered _ metrics => metrics.elim "" Metrics.text

end Outcome

namespace Program

variable {m : Type → Type} [Monad m]

def variablesFileName : String := ".env"

/-- The file of variables in the first of these directories that has one. -/
def variablesText (outside : Surroundings m) : List String → m (Option String)
  | [] => return none
  | directory :: rest => do
      match ← outside.fileAt (Path.join directory variablesFileName) with
      | .text content => return some content
      | _ => variablesText outside rest

/-- The environment with the variables of the file in the current directory or above it. -/
def environment? (outside : Surroundings m) : m (Option Environment) := do
  match ← variablesText outside (Path.ancestors outside.directories.current) with
  | some text => return outside.environment.addFile? text
  | none => return some outside.environment

def settings (outside : Surroundings m) (given : GivenSettings) :
    m (Except ConfigError Settings) := do
  let profile ← outside.fileAt (Settings.profilePath outside.directories)
  let overlay ← outside.fileAt (Settings.overlayPath outside.directories given)
  return Settings.load outside.directories given profile overlay

def session (outside : Surroundings m) (settings : Settings) :
    m (Except SessionError Session) := do
  match settings.requireSchema with
  | .error problem => return .error (.config problem)
  | .ok path =>
      let file ← outside.fileAt path
      return (Catalog.ofFile path file).map (Session.start settings)

/-- What is found at the source of a request.  Nothing is needed where there is none. -/
def requestFile (outside : Surroundings m) : Option RequestSource → m FileState
  | some .input => outside.input
  | some (.file path) => outside.fileAt path
  | none => return .text ""

def perform (outside : Surroundings m) (session : Session) (command : Command) : m Outcome := do
  let directories := outside.directories
  let request ← requestFile outside (command.requestSource? directories)
  let (result, seconds) ← outside.timed fun _ => session.answer directories command request
  match result with
  | .error error => return .failed error
  | .ok answer => return .answered answer (session.record command result seconds).metrics

def runIn (outside : Surroundings m) (environment : Environment) (arguments : List String) :
    m Outcome := do
  match CommandLine.read environment arguments with
  | .error error => return .misused error
  | .ok line =>
      match ← settings outside line.given with
      | .error problem => return .failed (.config problem)
      | .ok settings =>
          match ← session outside settings with
          | .error error => return .failed error
          | .ok session => perform outside session line.command

def run (outside : Surroundings m) (arguments : List String) : m Outcome := do
  match ← environment? outside with
  | some environment => runIn outside environment arguments
  | none => return .aborted

end Program

end FilterQuery
