import FilterQuery.Json.Record

/-!
# Database backends

The backends differ in the text of positional placeholders and in the clause that limits the rows.
-/

namespace FilterQuery

inductive Backend
  | postgres
  | sqlite
  deriving DecidableEq, Repr

namespace Backend

def default : Backend := .postgres

def name : Backend → String
  | .postgres => "postgres"
  | .sqlite => "sqlite"

def names : Named Backend :=
  [("postgres", .postgres), ("sqlite", .sqlite)]

/-- The backend that a user means.  Letter case is ignored. -/
def parse? (text : String) : Option Backend :=
  match String.ofList (text.toList.map Char.toLower) with
  | "postgres" | "postgresql" => some .postgres
  | "sqlite" => some .sqlite
  | _ => none

def invalidMessage (text : String) : String :=
  "Invalid backend '" ++ text ++ "'. Valid options: postgres, sqlite"

/-- The placeholder of the parameter with this number, counted from one. -/
def placeholder (backend : Backend) (index : Nat) : String :=
  match backend with
  | .postgres => "$" ++ toString index
  | .sqlite => "?"

/-- SQLite takes an offset only together with a limit, and -1 for no limit. -/
def limitOffset (backend : Backend) (limit offset : Option UInt64) : Option String :=
  match limit, offset with
  | none, none => none
  | some limit, none => some ("LIMIT " ++ toString limit)
  | none, some offset =>
      some (match backend with
        | .postgres => "OFFSET " ++ toString offset
        | .sqlite => "LIMIT -1 OFFSET " ++ toString offset)
  | some limit, some offset =>
      some ("LIMIT " ++ toString limit ++ " OFFSET " ++ toString offset)

end Backend

end FilterQuery
