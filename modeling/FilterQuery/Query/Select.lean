import FilterQuery.Query.Builder
import FilterQuery.Schema.Catalog
import FilterQuery.Sql.Placeholder

/-!
# Select queries

A select query keeps the calls made on it and renders them as SQL.  A join is looked up in the
catalog when it is registered; one that matches no relation makes the rendering fail.
-/

namespace FilterQuery

inductive QueryError
  | missingBuilder
  | unresolvedJoin (path : String)
  deriving DecidableEq, Repr

def QueryError.message : QueryError → String
  | .missingBuilder => "A query builder is required to generate a query"
  | .unresolvedJoin path => "Join " ++ path ++ " does not match any catalog relation"

structure JoinTarget where
  table : String
  condition : String
  deriving DecidableEq, Repr

structure Join where
  path : String
  tableAlias : String
  target : Option JoinTarget
  deriving DecidableEq, Repr

structure Select where
  catalog : Catalog
  rootAlias : String
  rootTable : String
  /-- The entities behind the aliases. -/
  entities : Named String
  joins : List Join
  clause : String
  parameters : Parameters
  orders : List (String × String)
  offset : Option UInt64
  limit : Option UInt64

/-- A path cut at its first point. -/
def splitPath? : List Char → Option (List Char × List Char)
  | [] => none
  | c :: rest =>
      if c = '.' then some ([], rest)
      else (splitPath? rest).map fun (parent, property) => (c :: parent, property)

namespace Select

def ofEntity (catalog : Catalog) (entity tableAlias : String) : Select where
  catalog := catalog
  rootAlias := tableAlias
  rootTable := catalog.table entity
  entities := [(tableAlias, entity)]
  joins := []
  clause := ""
  parameters := []
  orders := []
  offset := none
  limit := none

/-- The relation that a path leads to, with its owner and the alias of the owner. -/
def relationAt? (select : Select) (path : String) : Option (String × String × Relation) := do
  let (parent, property) ← splitPath? path.toList
  let parent := String.ofList parent
  let owner ← Named.get? parent select.entities
  let relation ← select.catalog.relation? owner (String.ofList property)
  return (parent, owner, relation)

/-- The alias of a join stands for the target of its relation from then on. -/
def innerJoin (select : Select) (path tableAlias : String) : Select :=
  match select.relationAt? path with
  | some (parent, owner, relation) =>
      let condition :=
        tableAlias ++ "." ++ relation.foreignColumn owner ++ " = " ++ parent ++ "." ++
          relation.localColumn
      { select with
        entities := Named.set tableAlias relation.target select.entities
        joins := select.joins ++
          [⟨path, tableAlias, some ⟨select.catalog.table relation.target, condition⟩⟩] }
  | none => { select with joins := select.joins ++ [⟨path, tableAlias, none⟩] }

instance : QueryBuilder Select where
  innerJoin := innerJoin
  setWhere select clause parameters := { select with clause := clause, parameters := parameters }
  addOrder select column direction :=
    { select with orders := select.orders ++ [(column, direction)] }
  skip select offset := { select with offset := some offset }
  take select limit := { select with limit := some limit }

def joinsSql : List Join → Except QueryError String
  | [] => .ok ""
  | join :: rest =>
      match join.target with
      | none => .error (.unresolvedJoin join.path)
      | some target => do
          let others ← joinsSql rest
          return " INNER JOIN " ++ target.table ++ " " ++ join.tableAlias ++ " ON " ++
            target.condition ++ others

def whereSql (select : Select) : String :=
  if select.clause.isEmpty then "" else " WHERE " ++ select.clause

def orderSql (select : Select) : String :=
  if select.orders.isEmpty then ""
  else
    " ORDER BY " ++
      Text.joined ", " (select.orders.map fun (column, direction) => column ++ " " ++ direction)

def pagingSql (select : Select) (backend : Backend) : String :=
  match backend.limitOffset select.limit select.offset with
  | some text => " " ++ text
  | none => ""

def sql (select : Select) (backend : Backend) : Except QueryError String := do
  let joins ← joinsSql select.joins
  return "SELECT " ++ select.rootAlias ++ ".* FROM " ++ select.rootTable ++ " " ++
    select.rootAlias ++ joins ++ select.whereSql ++ select.orderSql ++ select.pagingSql backend

def positional (select : Select) (backend : Backend) : Except QueryError PositionalSql := do
  return PositionalSql.ofNamed backend select.parameters (← select.sql backend)

theorem joinsSql_cons {join : Join} {target : JoinTarget} (htarget : join.target = some target)
    (rest : List Join) :
    joinsSql (join :: rest) =
      (joinsSql rest).map fun others =>
        " INNER JOIN " ++ target.table ++ " " ++ join.tableAlias ++ " ON " ++ target.condition ++
          others := by
  rw [joinsSql, htarget]
  cases joinsSql rest <;> rfl

theorem sql_eq_map (select : Select) (backend : Backend) :
    select.sql backend =
      (joinsSql select.joins).map fun joins =>
        "SELECT " ++ select.rootAlias ++ ".* FROM " ++ select.rootTable ++ " " ++
          select.rootAlias ++ joins ++ select.whereSql ++ select.orderSql ++
          select.pagingSql backend := by
  rw [Select.sql]
  cases joinsSql select.joins <;> rfl

end Select

end FilterQuery
