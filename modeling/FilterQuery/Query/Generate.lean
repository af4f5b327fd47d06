import FilterQuery.Filter.Join
import FilterQuery.Order.Apply
import FilterQuery.Query.Select
import FilterQuery.Request
import FilterQuery.Schema.Expansion

/-!
# Generating queries

A request is applied to a query in a fixed order: the joins of its filter, the predicate, the
ordering and the window of rows.  What the request leaves out is left as it was.
-/

namespace FilterQuery

variable {σ : Type} [QueryBuilder σ]

namespace Request

/-- A filter replaces the predicate even if it says nothing. -/
def applyFilter (request : Request) (tableAlias : String) (relations : RelationMap)
    (query : σ) : σ :=
  match request.filter with
  | none => query
  | some filter =>
      let (_, query) := filter.joinRelations tableAlias relations query
      let compiled := filter.compile tableAlias relations 0
      QueryBuilder.setWhere query compiled.text compiled.parameters

def applyOrder (request : Request) (tableAlias : String) (relations : RelationMap)
    (query : σ) : σ :=
  match request.order with
  | none => query
  | some order => order.apply tableAlias relations query

def applyPagination (request : Request) (query : σ) : σ :=
  match request.pagination with
  | none => query
  | some pagination =>
      let window := pagination.window
      QueryBuilder.take (QueryBuilder.skip query window.offset) window.limit

def apply (request : Request) (tableAlias : String) (relations : RelationMap) (query : σ) : σ :=
  request.applyPagination
    (request.applyOrder tableAlias relations (request.applyFilter tableAlias relations query))

end Request

def rootRelations (root : Option (Catalog × String)) : RelationMap :=
  match root with
  | some (catalog, entity) => catalog.relationMap entity
  | none => .empty

def generate (query : Option σ) (tableAlias : String) (request : Request)
    (root : Option (Catalog × String)) : Except QueryError σ :=
  match query with
  | none => .error .missingBuilder
  | some query => .ok (request.apply tableAlias (rootRelations root) query)

end FilterQuery
