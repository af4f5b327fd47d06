import FilterQuery.Json.Printer
import FilterQuery.Text.Join
import FilterQuery.Text.Quoted

/-!
# Errors of reading JSON

A text can break the grammar, end too early, or be well formed and not fit what is read from it.
-/

namespace FilterQuery.Json

/-- What stands in a text where something else was expected. -/
inductive Found
  | null
  | bool (value : Bool)
  | number (value : Number)
  | string (text : String)
  | sequence
  | map
  deriving DecidableEq, Repr

def found : Json → Found
  | .null => .null
  | .bool value => .bool value
  | .number value => .number value
  | .string text => .string text
  | .array _ => .sequence
  | .object _ => .map

def Found.text : Found → String
  | .null => "null"
  | .bool value => "boolean `" ++ (if value then "true" else "false") ++ "`"
  | .number (.integer value) => "integer `" ++ toString value ++ "`"
  | .number (.real value) => "floating point `" ++ realLayout.text value ++ "`"
  | .string text => "string " ++ Text.quoted text
  | .sequence => "sequence"
  | .map => "map"

/-- The ways in which a well-formed text does not fit. -/
inductive Mismatch
  | wrongType (found : Found) (expected : String)
  | wrongValue (found : Found) (expected : String)
  | wrongLength (length : Nat) (expected : String)
  | missingField (name : String)
  | unknownField (name : String) (known : List String)
  | duplicateField (name : String)
  | unknownVariant (name : String) (known : List String)
  | noVariant (type : String)
  deriving DecidableEq, Repr

def alternatives (names : List String) : String :=
  match names.map fun name => "`" ++ name ++ "`" with
  | [only] => only
  | [one, other] => one ++ " or " ++ other
  | many => "one of " ++ Text.joined ", " many

def Mismatch.message : Mismatch → String
  | .wrongType found expected => "invalid type: " ++ found.text ++ ", expected " ++ expected
  | .wrongValue found expected => "invalid value: " ++ found.text ++ ", expected " ++ expected
  | .wrongLength length expected =>
      "invalid length " ++ toString length ++ ", expected " ++ expected
  | .missingField name => "missing field `" ++ name ++ "`"
  | .unknownField name known =>
      "unknown field `" ++ name ++ "`, expected " ++ alternatives known
  | .duplicateField name => "duplicate field `" ++ name ++ "`"
  | .unknownVariant name known =>
      "unknown variant `" ++ name ++ "`, expected " ++ alternatives known
  | .noVariant type => "data did not match any variant of untagged enum " ++ type

end FilterQuery.Json

namespace FilterQuery

inductive ReadError
  | malformed
  | unfinished
  | mismatch (problem : Json.Mismatch)
  deriving DecidableEq, Repr

def ReadError.message : ReadError → String
  | .malformed => "malformed JSON"
  | .unfinished => "unexpected end of JSON"
  | .mismatch problem => problem.message

end FilterQuery
