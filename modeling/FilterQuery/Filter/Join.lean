import FilterQuery.Query.Builder

/-!
# The joins of a filter

Every relation that a filter mentions is joined once under its own name, and before the relations
below it.  A relation counts as mentioned whatever the value under it is.
-/

namespace FilterQuery

/-- The joins registered so far, as paths and aliases, and the query that has them. -/
structure JoinPlan (σ : Type) where
  registered : List (String × String)
  query : σ

namespace JoinPlan

variable {σ : Type} [QueryBuilder σ]

/-- A join that is registered already is not made again. -/
def register (plan : JoinPlan σ) (tableAlias key : String) : JoinPlan σ :=
  let path := tableAlias ++ "." ++ key
  if (path, key) ∈ plan.registered then plan
  else
    { registered := plan.registered ++ [(path, key)]
      query := QueryBuilder.innerJoin plan.query path key }

end JoinPlan

variable {σ : Type} [QueryBuilder σ]

mutual

def Filter.planJoins (tableAlias : String) (relations : RelationMap) :
    Filter → JoinPlan σ → JoinPlan σ
  | .ofEntries entries, plan => planEntries tableAlias relations entries plan
termination_by structural filter => filter

def FilterValue.planJoins (tableAlias : String) (relations : RelationMap) (key : String) :
    FilterValue → JoinPlan σ → JoinPlan σ
  | .combinator _ branches, plan => planBranches tableAlias relations branches plan
  | .mapping nested _, plan =>
      match relations.get? key with
      | some inner => nested.planJoins key inner (plan.register tableAlias key)
      | none => plan
  | .sequence _, plan => if relations.contains key then plan.register tableAlias key else plan
  | .scalar _, plan => if relations.contains key then plan.register tableAlias key else plan
termination_by structural value => value

def planEntries (tableAlias : String) (relations : RelationMap) :
    List (String × FilterValue) → JoinPlan σ → JoinPlan σ
  | [], plan => plan
  | (key, value) :: rest, plan =>
      planEntries tableAlias relations rest (value.planJoins tableAlias relations key plan)
termination_by structural entries => entries

def planBranches (tableAlias : String) (relations : RelationMap) :
    List Filter → JoinPlan σ → JoinPlan σ
  | [], plan => plan
  | branch :: rest, plan =>
      planBranches tableAlias relations rest (branch.planJoins tableAlias relations plan)
termination_by structural branches => branches

end

/-- Joins the relations of a filter and counts the joins made. -/
def Filter.joinRelations (filter : Filter) (tableAlias : String) (relations : RelationMap)
    (query : σ) : Nat × σ :=
  let plan := filter.planJoins tableAlias relations ⟨[], query⟩
  (plan.registered.length, plan.query)

end FilterQuery
