import FilterQuery.Order.Basic
import FilterQuery.Query.Builder

/-!
# Ordering a query

A direction orders by a column of the current alias.  A nested order under a relation orders by the
columns of that relation, one level deep; deeper levels, and nested orders under other keys, are
passed over.
-/

namespace FilterQuery

variable {σ : Type} [QueryBuilder σ]

def orderByRelation (key : String) (query : σ) : List (String × OrderValue) → σ
  | [] => query
  | (column, .direction text) :: rest =>
      orderByRelation key (QueryBuilder.addOrder query (key ++ "." ++ column) text) rest
  | (_, .nested _) :: rest => orderByRelation key query rest

def Order.applyEntries (tableAlias : String) (relations : RelationMap) (query : σ) :
    List (String × OrderValue) → σ
  | [] => query
  | (key, .direction text) :: rest =>
      applyEntries tableAlias relations
        (QueryBuilder.addOrder query (tableAlias ++ "." ++ key) text) rest
  | (key, .nested inner) :: rest =>
      applyEntries tableAlias relations
        (if relations.contains key then orderByRelation key query inner.entries else query) rest

def Order.apply (order : Order) (tableAlias : String) (relations : RelationMap) (query : σ) : σ :=
  applyEntries tableAlias relations query order.entries

end FilterQuery
