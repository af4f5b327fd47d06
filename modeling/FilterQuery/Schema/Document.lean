import FilterQuery.Json.Record
import FilterQuery.Schema.Catalog

/-!
# Catalog documents

The JSON form of a catalog.  Unknown names are refused at every level.
-/

namespace FilterQuery

def Cardinality.names : Named Cardinality :=
  [("one_to_one", .oneToOne), ("many_to_one", .manyToOne), ("one_to_many", .oneToMany)]

namespace Relation

/-- The values of a relation as far as they have been read. -/
structure Slots where
  property : Option String
  target : Option String
  cardinality : Option Cardinality
  localKey : Option (Option String)
  foreignKey : Option (Option String)

/-- A relation is many to one unless it says otherwise. -/
def shape : RecordShape Slots Relation where
  name := "RelationDef"
  unknown := .refused
  hasArrayForm := true
  initial := ⟨none, none, none, none, none⟩
  fields := [
    { name := "property", hasDefault := false, isSet := (·.property.isSome)
      read := fun _ slots chars => do
        let (value, rest) ← Reader.text chars
        return ({ slots with property := some value }, rest) },
    { name := "target", hasDefault := false, isSet := (·.target.isSome)
      read := fun _ slots chars => do
        let (value, rest) ← Reader.text chars
        return ({ slots with target := some value }, rest) },
    { name := "kind", hasDefault := true, isSet := (·.cardinality.isSome)
      read := fun depth slots chars => do
        let (value, rest) ← Reader.variantOf Cardinality.names depth chars
        return ({ slots with cardinality := some value }, rest) },
    { name := "local_column", hasDefault := false, isSet := (·.localKey.isSome)
      read := fun _ slots chars => do
        let (value, rest) ← Reader.optional Reader.text chars
        return ({ slots with localKey := some value }, rest) },
    { name := "foreign_column", hasDefault := false, isSet := (·.foreignKey.isSome)
      read := fun _ slots chars => do
        let (value, rest) ← Reader.optional Reader.text chars
        return ({ slots with foreignKey := some value }, rest) }]
  finish := fun slots => do
    return {
      property := ← required "property" slots.property
      target := ← required "target" slots.target
      cardinality := slots.cardinality.getD .manyToOne
      localKey := slots.localKey.join
      foreignKey := slots.foreignKey.join }

end Relation

namespace Entity

structure Slots where
  table : Option (Option String)
  relations : Option (List Relation)

def shape : RecordShape Slots Entity where
  name := "EntityDef"
  unknown := .refused
  hasArrayForm := true
  initial := ⟨none, none⟩
  fields := [
    { name := "table", hasDefault := false, isSet := (·.table.isSome)
      read := fun _ slots chars => do
        let (value, rest) ← Reader.optional Reader.text chars
        return ({ slots with table := some value }, rest) },
    { name := "relations", hasDefault := true, isSet := (·.relations.isSome)
      read := fun depth slots chars => do
        let (value, rest) ← Reader.listOf Relation.shape.read depth chars
        return ({ slots with relations := some value }, rest) }]
  finish := fun slots => .ok {
    table := slots.table.join
    relations := slots.relations.getD [] }

end Entity

namespace Catalog

def shape : RecordShape (Option (Named Entity)) Catalog where
  name := "StaticCatalog"
  unknown := .refused
  hasArrayForm := true
  initial := none
  fields := [
    { name := "entities", hasDefault := true, isSet := Option.isSome
      read := fun depth _ chars => do
        let (value, rest) ← Reader.mapOf Entity.shape.read depth chars
        return (some value, rest) }]
  finish := fun entities => .ok ⟨entities.getD []⟩

def parse (text : String) : Except ReadError Catalog :=
  shape.parse text

end Catalog

end FilterQuery
