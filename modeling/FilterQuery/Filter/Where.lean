import FilterQuery.Filter.Condition
import FilterQuery.Schema.RelationMap

/-!
# The clause of a filter

Every entry of a filter contributes conditions in its place.  The keys of a filter are columns of
the current alias, except for combinators and for the relations of the current map: the filter of a
relation is read with the relation's name as alias.  What has no meaning contributes nothing:
unknown operators, combinators of nothing, and values under a relation that are not objects.

Parameters are numbered in the order of the text, and one counter runs through the whole filter.
-/

namespace FilterQuery

abbrev Parameters := Named Json

/-- A clause with the values of its parameters, and the number of the next parameter. -/
structure Compiled where
  clause : Clause
  parameters : Parameters
  next : Nat

structure CompiledBranches where
  clauses : List Clause
  parameters : Parameters
  next : Nat

namespace Compiled

def nothing (next : Nat) : Compiled := ⟨[], [], next⟩

def comparison (column : Column) (operator : Operator) (operand : Json) (next : Nat) :
    Compiled :=
  let count := operator.arity.size
  { clause := [.compare column operator next]
    parameters := (parameterNames next count).zip (operator.operands operand)
    next := next + count }

/-- The clauses of a combinator in parentheses, if there are any. -/
def combined (combinator : Combinator) (branches : CompiledBranches) : Compiled :=
  { clause := if branches.clauses.isEmpty then [] else [.group combinator branches.clauses]
    parameters := branches.parameters
    next := branches.next }

def enclosed (inner : Compiled) : Compiled :=
  { inner with clause := if inner.clause.isEmpty then [] else [.group .and [inner.clause]] }

/-- The conditions of `first`, then those that start from its last number. -/
def followedBy (first : Compiled) (rest : Nat → Compiled) : Compiled :=
  let second := rest first.next
  { clause := first.clause ++ second.clause
    parameters := Named.extend first.parameters second.parameters
    next := second.next }

def text (compiled : Compiled) : String :=
  compiled.clause.text

end Compiled

def compileOperators (column : Column) : List (String × Json) → Nat → Compiled
  | [], next => .nothing next
  | (name, operand) :: rest, next =>
      match Operator.ofName? name with
      | none => compileOperators column rest next
      | some operator =>
          (Compiled.comparison column operator operand next).followedBy
            (compileOperators column rest)

mutual

/-- The clause of a filter whose columns belong to `tableAlias`. -/
def Filter.compile (tableAlias : String) (relations : RelationMap) : Filter → Nat → Compiled
  | .ofEntries entries, next => compileEntries tableAlias relations entries next
termination_by structural filter => filter

def FilterValue.compile (tableAlias : String) (relations : RelationMap) (key : String) :
    FilterValue → Nat → Compiled
  | .combinator combinator branches, next =>
      .combined combinator (compileBranches tableAlias relations branches next)
  | .mapping nested members, next =>
      match relations.get? key with
      | some inner => .enclosed (nested.compile key inner next)
      | none => compileOperators ⟨tableAlias, key⟩ members next
  | .sequence items, next =>
      if relations.contains key then .nothing next
      else .comparison ⟨tableAlias, key⟩ .isIn (.array items) next
  | .scalar value, next =>
      if relations.contains key then .nothing next
      else .comparison ⟨tableAlias, key⟩ .eq value next
termination_by structural value => value

def compileEntries (tableAlias : String) (relations : RelationMap) :
    List (String × FilterValue) → Nat → Compiled
  | [], next => .nothing next
  | (key, value) :: rest, next =>
      (value.compile tableAlias relations key next).followedBy
        (compileEntries tableAlias relations rest)
termination_by structural entries => entries

def compileBranches (tableAlias : String) (relations : RelationMap) :
    List Filter → Nat → CompiledBranches
  | [], next => ⟨[], [], next⟩
  | branch :: rest, next =>
      let first := branch.compile tableAlias relations next
      let others := compileBranches tableAlias relations rest first.next
      { clauses := if first.clause.isEmpty then others.clauses
          else first.clause :: others.clauses
        parameters := Named.extend first.parameters others.parameters
        next := others.next }
termination_by structural branches => branches

end

end FilterQuery
