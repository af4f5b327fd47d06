import FilterQuery.Json.Basic

/-!
# Operators

The comparisons of a column that an object of operators may ask for.
-/

namespace FilterQuery

inductive Operator
  | eq | ne | gt | gte | lt | lte
  | like | ilike | contains
  | isIn | notIn
  | isNull | isNotNull
  | between | notBetween
  | isEmpty | isNotEmpty
  deriving DecidableEq, Repr

/-- How an operator binds its operand: not at all, as one value, as one value whose items are
compared, or as the first two of its items. -/
inductive Arity
  | nullary
  | unary
  | list
  | pair
  deriving DecidableEq, Repr

def Arity.size : Arity → Nat
  | .nullary => 0
  | .unary | .list => 1
  | .pair => 2

namespace Operator

def ofName? : String → Option Operator
  | "eq" => some .eq
  | "ne" => some .ne
  | "gt" => some .gt
  | "gte" => some .gte
  | "lt" => some .lt
  | "lte" => some .lte
  | "like" => some .like
  | "ilike" => some .ilike
  | "contains" => some .contains
  | "in" => some .isIn
  | "notIn" => some .notIn
  | "isNull" => some .isNull
  | "isNotNull" => some .isNotNull
  | "between" => some .between
  | "notBetween" => some .notBetween
  | "isEmpty" => some .isEmpty
  | "isNotEmpty" => some .isNotEmpty
  | _ => none

/-- The SQL text between a column and its parameters.  The tests of array length have none. -/
def sql : Operator → String
  | .eq => "="
  | .ne => "<>"
  | .gt => ">"
  | .gte => ">="
  | .lt => "<"
  | .lte => "<="
  | .like => "LIKE"
  | .ilike => "ILIKE"
  | .contains => "@>"
  | .isIn => "IN"
  | .notIn => "NOT IN"
  | .isNull => "IS NULL"
  | .isNotNull => "IS NOT NULL"
  | .between => "BETWEEN"
  | .notBetween => "NOT BETWEEN"
  | .isEmpty | .isNotEmpty => ""

def arity : Operator → Arity
  | .isNull | .isNotNull | .isEmpty | .isNotEmpty => .nullary
  | .isIn | .notIn => .list
  | .between | .notBetween => .pair
  | _ => .unary

/-- The values that are bound for an operand.  A missing end of a range is null. -/
def operands (operator : Operator) (operand : Json) : List Json :=
  match operator.arity with
  | .nullary => []
  | .unary | .list => [operand]
  | .pair =>
      match operand with
      | .array items => [items[0]?.getD .null, items[1]?.getD .null]
      | _ => [.null, .null]

theorem length_operands (operator : Operator) (operand : Json) :
    (operator.operands operand).length = operator.arity.size := by
  unfold operands
  cases operator.arity <;> cases operand <;> rfl

end Operator

end FilterQuery
