import FilterQuery.Binary64.Basic
import FilterQuery.Named

/-!
# JSON values

Whole numbers between `-2 ^ 63` and `2 ^ 64 - 1` are kept exactly; all other numbers are binary
floating-point numbers.  The members of an object keep their order.
-/

namespace FilterQuery

inductive Number
  | integer (value : Int)
  | real (value : Binary64)
  deriving DecidableEq, Repr

inductive Json
  | null
  | bool (value : Bool)
  | number (value : Number)
  | string (text : String)
  | array (items : List Json)
  | object (members : List (String × Json))
  deriving Repr, Inhabited

namespace Json

def ofInt (value : Int) : Json :=
  .number (.integer value)

def ofNat (value : Nat) : Json :=
  ofInt value

def member? (name : String) : Json → Option Json
  | .object members => Named.get? name members
  | _ => none

end Json

end FilterQuery
