import FilterQuery.CommandLine.Basic
import FilterQuery.Metrics.Track
import FilterQuery.Query.Generate
import FilterQuery.Schema.Document
import FilterQuery.Session.Error

/-!
# Sessions

A session holds the settings, the catalog and the metrics with which commands are performed.  Every
command is tracked under its name, if metrics are wanted, and its answer does not depend on that.
-/

namespace FilterQuery

def RequestSource.ofText (directories : Directories) (text : String) : RequestSource :=
  if text = "-" then .input else .file (Path.expand directories text)

def Command.requestSource? (directories : Directories) : Command → Option RequestSource
  | .compile _ _ request _ => some (.ofText directories request)
  | .relations _ => none

def Command.label : Command → SeriesLabel
  | .compile .. => ⟨"compile", .query⟩
  | .relations _ => ⟨"relations", .query⟩

def Catalog.ofFile (path : String) (file : FileState) : Except SessionError Catalog :=
  match file.read with
  | .error problem => .error (.catalogUnreadable path problem)
  | .ok text => (parse text).mapError (.catalogInvalid path)

def Request.ofFile (source : RequestSource) (file : FileState) : Except SessionError Request :=
  match file.read with
  | .error problem => .error (.requestUnreadable source problem)
  | .ok text => (parse text).mapError .requestRejected

structure Session where
  settings : Settings
  catalog : Catalog
  /-- There are none when they are not wanted. -/
  metrics : Option Metrics

namespace Session

def start (settings : Settings) (catalog : Catalog) : Session where
  settings := settings
  catalog := catalog
  metrics := if settings.metrics then some .empty else none

/-- The alias of a root entity that is given none.  The final underscore tells it from the reserved
words of SQL. -/
def defaultAlias (entity : String) : String :=
  Text.snakeCase entity ++ "_"

def select (session : Session) (entity : String) (tableAlias : Option String) (request : Request) :
    Except QueryError Select :=
  let tableAlias := tableAlias.getD (defaultAlias entity)
  generate (some (Select.ofEntity session.catalog entity tableAlias)) tableAlias request
    (some (session.catalog, entity))

/-- The SQL text of a request with its parameters, under their names or in the order of their
placeholders. -/
def compile (session : Session) (entity : String) (tableAlias : Option String) (request : Request)
    (positional : Bool) : Except QueryError Json := do
  let select ← session.select entity tableAlias request
  if positional then
    let rendered ← select.positional session.settings.backend
    return .object [("sql", .string rendered.sql), ("binds", .array rendered.binds)]
  else
    let sql ← select.sql session.settings.backend
    return .object [("sql", .string sql), ("parameters", .object select.parameters)]

def relations (session : Session) (entity : String) : Json :=
  (session.catalog.relationMap entity).toJson

/-- The answer to a command.  Placeholders are positional if the command or the settings say so. -/
def answer (session : Session) (directories : Directories) (command : Command)
    (request : FileState) : Except SessionError Json := do
  match command with
  | .compile entity tableAlias source positional =>
      let request ← Request.ofFile (.ofText directories source) request
      let positional := positional || session.settings.positional
      (session.compile entity tableAlias request positional).mapError .query
  | .relations entity => return session.relations entity

def record (session : Session) (command : Command) (result : Except SessionError Json)
    (seconds : Binary64) : Session :=
  { session with
    metrics := session.metrics.map fun metrics => metrics.track command.label seconds result }

/-- Answers a command, with what was found at the source of its request, and tracks it. -/
def perform (session : Session) (directories : Directories) (command : Command)
    (request : FileState) (seconds : Binary64) : Except SessionError Json × Session :=
  let result := session.answer directories command request
  (result, session.record command result seconds)

end Session

end FilterQuery
