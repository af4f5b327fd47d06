import FilterQuery.Filter.Where

/-!
# Query builders

A query is put together by five operations on a state of any type.  `Call` has the same operations
as data, so that a list of calls can be kept and replayed.
-/

namespace FilterQuery

class QueryBuilder (σ : Type) where
  /-- Joins the relation at `path`, an alias and a property with a point between them. -/
  innerJoin (query : σ) (path tableAlias : String) : σ
  /-- Replaces the predicate and its parameters. -/
  setWhere (query : σ) (clause : String) (parameters : Parameters) : σ
  addOrder (query : σ) (column direction : String) : σ
  skip (query : σ) (offset : UInt64) : σ
  take (query : σ) (limit : UInt64) : σ

inductive Call
  | join (path tableAlias : String)
  | where_ (clause : String) (parameters : Parameters)
  | order (column direction : String)
  | skip (offset : UInt64)
  | take (limit : UInt64)

namespace Call

def perform {σ : Type} [QueryBuilder σ] (query : σ) : Call → σ
  | .join path tableAlias => QueryBuilder.innerJoin query path tableAlias
  | .where_ clause parameters => QueryBuilder.setWhere query clause parameters
  | .order column direction => QueryBuilder.addOrder query column direction
  | .skip offset => QueryBuilder.skip query offset
  | .take limit => QueryBuilder.take query limit

def replay {σ : Type} [QueryBuilder σ] (calls : List Call) (query : σ) : σ :=
  calls.foldl perform query

end Call

structure Recording where
  calls : List Call

namespace Recording

def empty : Recording := ⟨[]⟩

def add (recording : Recording) (call : Call) : Recording :=
  ⟨recording.calls ++ [call]⟩

instance : QueryBuilder Recording where
  innerJoin recording path tableAlias := recording.add (.join path tableAlias)
  setWhere recording clause parameters := recording.add (.where_ clause parameters)
  addOrder recording column direction := recording.add (.order column direction)
  skip recording offset := recording.add (.skip offset)
  take recording limit := recording.add (.take limit)

end Recording

end FilterQuery
