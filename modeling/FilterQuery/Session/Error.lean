import FilterQuery.Config.Settings
import FilterQuery.Query.Select
import FilterQuery.Request

/-!
# Errors of a session

Everything that can keep a command from giving its answer.
-/

namespace FilterQuery

inductive RequestSource
  | input
  | file (path : String)
  deriving DecidableEq, Repr

inductive SessionError
  | config (problem : ConfigError)
  | catalogUnreadable (path : String) (problem : SystemError)
  | catalogInvalid (path : String) (problem : ReadError)
  | requestUnreadable (source : RequestSource) (problem : SystemError)
  | requestRejected (problem : RequestError)
  | query (problem : QueryError)

namespace SessionError

def message : SessionError → String
  | .config problem => problem.message
  | .catalogUnreadable path problem =>
      "Failed to load schema catalog: " ++ path ++ ": Failed to read schema catalog " ++ path ++
        ": " ++ problem.message ++ ": " ++ problem.message
  | .catalogInvalid path problem =>
      "Failed to load schema catalog: " ++ path ++ ": Failed to parse schema catalog: " ++
        problem.message
  | .requestUnreadable .input problem =>
      "Failed to read request from stdin: " ++ problem.message
  | .requestUnreadable (.file path) problem =>
      "Failed to read request file: " ++ path ++ ": " ++ problem.message
  | .requestRejected problem => problem.message ++ " [" ++ problem.code ++ "]"
  | .query problem => problem.message

end SessionError

end FilterQuery
