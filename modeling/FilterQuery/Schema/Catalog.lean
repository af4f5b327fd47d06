import FilterQuery.Named
import FilterQuery.Text.SnakeCase

/-!
# Catalogs

A catalog says which properties of an entity are relations to other entities, and names the tables
and columns behind them.  What it leaves out follows from the names: the table of an entity it does
not know is the snake case of the entity's name.
-/

namespace FilterQuery

inductive Cardinality
  | oneToOne
  | manyToOne
  | oneToMany
  deriving DecidableEq, Repr

def Cardinality.isToOne : Cardinality → Bool
  | .oneToOne | .manyToOne => true
  | .oneToMany => false

structure Relation where
  property : String
  target : String
  cardinality : Cardinality
  localKey : Option String
  foreignKey : Option String
  deriving DecidableEq, Repr

namespace Relation

def localColumn (relation : Relation) : String :=
  relation.localKey.getD
    (if relation.cardinality.isToOne then relation.property ++ "_id" else "id")

def foreignColumn (relation : Relation) (owner : String) : String :=
  relation.foreignKey.getD
    (if relation.cardinality.isToOne then "id" else Text.snakeCase owner ++ "_id")

end Relation

structure Entity where
  table : Option String
  relations : List Relation
  deriving Repr

structure Catalog where
  entities : Named Entity
  deriving Repr

namespace Catalog

def empty : Catalog := ⟨[]⟩

def entity? (catalog : Catalog) (entity : String) : Option Entity :=
  Named.get? entity catalog.entities

def relations (catalog : Catalog) (entity : String) : List Relation :=
  (catalog.entity? entity).elim [] Entity.relations

def table (catalog : Catalog) (entity : String) : String :=
  ((catalog.entity? entity).bind Entity.table).getD (Text.snakeCase entity)

/-- The relation that an entity declares first under a property. -/
def relation? (catalog : Catalog) (entity property : String) : Option Relation :=
  (catalog.relations entity).find? (·.property == property)

end Catalog

end FilterQuery
