import FilterQuery.Json.Basic
import FilterQuery.Sorted

/-!
# Relation maps

A relation map holds the properties of an entity that are relations, and under each of them the map
of the related entity.  The properties are in ascending order.
-/

namespace FilterQuery

inductive RelationMap
  | ofEntries (entries : List (String × RelationMap))

namespace RelationMap

def empty : RelationMap := .ofEntries []

def entries : RelationMap → Sorted String RelationMap
  | .ofEntries entries => entries

/-- The map below a property, if the property is a relation. -/
def get? (map : RelationMap) (property : String) : Option RelationMap :=
  Sorted.get? property map.entries

def contains (map : RelationMap) (property : String) : Bool :=
  (map.get? property).isSome

/-- A property that is there already gets the new map. -/
def insert (map : RelationMap) (property : String) (nested : RelationMap) : RelationMap :=
  .ofEntries (Sorted.set property nested map.entries)

def properties (map : RelationMap) : List String :=
  map.entries.map Prod.fst

def size (map : RelationMap) : Nat :=
  map.entries.length

def isEmpty (map : RelationMap) : Bool :=
  map.entries.isEmpty

mutual

def toJson : RelationMap → Json
  | .ofEntries entries => .object (entriesJson entries)
termination_by structural map => map

def entriesJson : List (String × RelationMap) → List (String × Json)
  | [] => []
  | (property, nested) :: rest => (property, nested.toJson) :: entriesJson rest
termination_by structural entries => entries

end

@[simp] theorem get?_empty (property : String) : empty.get? property = none := rfl

@[simp] theorem get?_insert_self (map : RelationMap) (property : String) (nested : RelationMap) :
    (map.insert property nested).get? property = some nested := by
  simp [insert, get?, entries]

theorem get?_insert_of_ne {property other : String} (hne : other ≠ property)
    (map nested : RelationMap) : (map.insert property nested).get? other = map.get? other :=
  Sorted.get?_set_of_ne hne nested map.entries

theorem isSome_get?_iff {map : RelationMap} {property : String} :
    (map.get? property).isSome = true ↔ property ∈ map.properties :=
  Sorted.isSome_get?_iff

theorem properties_insert {map : RelationMap} {property : String}
    (hnew : map.get? property = none) (nested : RelationMap) :
    (map.insert property nested).properties.Perm (property :: map.properties) :=
  (Sorted.set_perm hnew nested).map Prod.fst

end RelationMap

end FilterQuery
