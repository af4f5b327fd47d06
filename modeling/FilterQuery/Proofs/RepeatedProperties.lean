import FilterQuery.Proofs.JoinResolution

/-!
# Properties that are declared twice

A catalog may declare a property of an entity more than once.  A relation map keeps the map that was
inserted last, and a select query joins the relation that is declared first.  This file says for
every catalog what either of them reads, and so when they read the same: a map below a property that
is not cut off lists what the target of the last declaration declares, and the table that is joined
is that of the target of the first.
-/

namespace FilterQuery

theorem RelationMap.mem_properties_insert {map nested : RelationMap} {property key : String} :
    key ∈ (map.insert property nested).properties ↔ key = property ∨ key ∈ map.properties := by
  rw [← isSome_get?_iff, ← isSome_get?_iff]
  by_cases hkey : key = property
  · simp [hkey]
  · rw [get?_insert_of_ne hkey]
    exact (or_iff_right hkey).symm

namespace Catalog

def properties (catalog : Catalog) (entity : String) : List String :=
  (catalog.relations entity).map Relation.property

/-- The relation that an entity declares last under a property. -/
def lastRelation? (catalog : Catalog) (entity property : String) : Option Relation :=
  (catalog.relations entity).reverse.find? (·.property == property)

/-- The map has exactly the properties that the entity declares. -/
def Lists (catalog : Catalog) (entity : String) (map : RelationMap) : Prop :=
  ∀ property, property ∈ map.properties ↔ property ∈ catalog.properties entity

variable {catalog : Catalog} {entity property : String} {nested : RelationMap}

/-! ## What a map holds -/

theorem mem_properties_expandRelations (relations : List Relation) (before : RelationMap)
    (visited : List String) :
    property ∈ (catalog.expandRelations relations before visited).1.properties ↔
      property ∈ relations.map Relation.property ∨ property ∈ before.properties := by
  induction relations generalizing before visited with
  | nil => simp [expandRelations]
  | cons relation rest ih =>
      rw [expandRelations]
      simp only [ih, RelationMap.mem_properties_insert, List.map_cons, List.mem_cons]
      exact or_left_comm.trans or_assoc.symm

/-- The map of an entity is empty where the walk met the entity before, and complete elsewhere. -/
theorem expandFrom_lists (catalog : Catalog) (entity : String) (visited : List String) :
    (catalog.expandFrom entity visited).1 = .empty ∨
      catalog.Lists entity (catalog.expandFrom entity visited).1 := by
  by_cases hseen : entity ∈ visited
  · rw [expandFrom, dif_pos hseen]
    exact .inl rfl
  · refine .inr fun property => ?_
    rw [(catalog.expandFrom_of_notMem hseen).1, mem_properties_expandRelations]
    exact or_iff_left List.not_mem_nil

/-- Of the relations of one property the last one leaves its map. -/
theorem exists_last_of_get?_expandRelations {relations : List Relation} {before : RelationMap}
    {visited : List String}
    (hget : (catalog.expandRelations relations before visited).1.get? property = some nested) :
    (property ∉ relations.map Relation.property ∧ before.get? property = some nested) ∨
      ∃ last between, relations.reverse.find? (·.property == property) = some last ∧
        nested = (catalog.expandFrom last.target between).1 := by
  -- The map built so far is generalized: what was inserted early may be replaced later on.
  induction relations generalizing before visited with
  | nil =>
      rw [expandRelations] at hget
      exact .inl ⟨List.not_mem_nil, hget⟩
  | cons relation rest ih =>
      rw [expandRelations] at hget
      rcases ih hget with ⟨hnotMem, hbefore⟩ | ⟨last, between, hlast, hnested⟩
      · by_cases hproperty : property = relation.property
        · subst hproperty
          rw [RelationMap.get?_insert_self] at hbefore
          have hnone : rest.reverse.find? (·.property == relation.property) = none := by
            rw [List.find?_eq_none]
            intro other hother heq
            rw [List.mem_reverse] at hother
            exact hnotMem (List.mem_map.mpr ⟨other, hother, beq_iff_eq.mp heq⟩)
          refine .inr ⟨relation, visited, ?_, (Option.some.inj hbefore).symm⟩
          simp [hnone]
        · rw [RelationMap.get?_insert_of_ne hproperty] at hbefore
          refine .inl ⟨?_, hbefore⟩
          rw [List.map_cons, List.mem_cons, not_or]
          exact ⟨hproperty, hnotMem⟩
      · refine .inr ⟨last, between, ?_, hnested⟩
        rw [List.reverse_cons, List.find?_append, hlast]
        rfl

theorem exists_lastRelation?_of_get?
    (hget : (catalog.relationMap entity).get? property = some nested) :
    ∃ last, catalog.lastRelation? entity property = some last ∧
      (nested = .empty ∨ catalog.Lists last.target nested) := by
  rw [relationMap, (catalog.expandFrom_of_notMem List.not_mem_nil).1] at hget
  rcases exists_last_of_get?_expandRelations hget with ⟨-, hnone⟩ | ⟨last, between, hlast, rfl⟩
  · cases hnone
  · exact ⟨last, hlast, catalog.expandFrom_lists last.target between⟩

/-! ## What a join reads -/

theorem declared_of_lastRelation? {last : Relation}
    (hlast : catalog.lastRelation? entity property = some last) :
    last ∈ catalog.relations entity ∧ last.property = property := by
  unfold lastRelation? at hlast
  have hproperty := List.find?_some hlast
  exact ⟨List.mem_reverse.mp (List.mem_of_find?_eq_some hlast), beq_iff_eq.mp hproperty⟩

/-- What is declared last under a property leaves something that is declared first. -/
theorem exists_relation?_of_lastRelation? {last : Relation}
    (hlast : catalog.lastRelation? entity property = some last) :
    ∃ first, catalog.relation? entity property = some first := by
  obtain ⟨hdeclared, hproperty⟩ := declared_of_lastRelation? hlast
  have hsome : ((catalog.relations entity).find? (·.property == property)).isSome = true :=
    List.find?_isSome.mpr ⟨last, hdeclared, beq_iff_eq.mpr hproperty⟩
  exact Option.isSome_iff_exists.mp hsome

end Catalog

theorem Select.joins_innerJoin_ofEntity {catalog : Catalog} {entity tableAlias : String}
    (halias : '.' ∉ tableAlias.toList) {property : String} {relation : Relation}
    (hrelation : catalog.relation? entity property = some relation) :
    ((Select.ofEntity catalog entity tableAlias).innerJoin (tableAlias ++ "." ++ property)
        property).joins =
      [RelationJoin.resolved catalog ⟨tableAlias, entity, relation⟩] := by
  obtain ⟨-, rfl⟩ := Catalog.declared_of_relation? hrelation
  have howner : Named.get? tableAlias (ofEntity catalog entity tableAlias).entities =
      some entity := if_pos rfl
  have hrelationAt := relationAt?_eq halias howner hrelation
  rw [innerJoin, hrelationAt]
  rfl

/-- Below a property the join goes to the target of its first declaration, while a map that is not
cut off lists what the target of its last declaration declares.  So the keys below the property are
read against the joined entity just where the map is cut off or both targets declare the same
properties. -/
theorem innerJoin_reads_listed_entity_iff (catalog : Catalog)
    (entity tableAlias property : String) (nested : RelationMap)
    (halias : '.' ∉ tableAlias.toList)
    (hget : (catalog.relationMap entity).get? property = some nested) :
    ∃ first last,
      catalog.relation? entity property = some first ∧
      catalog.lastRelation? entity property = some last ∧
      ((Select.ofEntity catalog entity tableAlias).innerJoin (tableAlias ++ "." ++ property)
          property).joins =
        [RelationJoin.resolved catalog ⟨tableAlias, entity, first⟩] ∧
      (nested = .empty ∨ catalog.Lists last.target nested) ∧
      (nested = .empty ∨ catalog.Lists first.target nested ↔
        nested = .empty ∨
          ∀ key, key ∈ catalog.properties first.target ↔ key ∈ catalog.properties last.target) := by
  obtain ⟨last, hlast, hlists⟩ := Catalog.exists_lastRelation?_of_get? hget
  obtain ⟨first, hfirst⟩ := Catalog.exists_relation?_of_lastRelation? hlast
  refine ⟨first, last, hfirst, hlast, Select.joins_innerJoin_ofEntity halias hfirst, hlists, ?_⟩
  rcases hlists with hempty | hlists
  · simp [hempty]
  · apply or_congr_right
    constructor
    · intro hfirst key
      rw [← hfirst key, hlists key]
    · intro hsame key
      rw [hsame key, hlists key]

/-- Orders with a party, which is a customer and then again a supplier. -/
def Catalog.ofParties : Catalog :=
  ⟨[
    ("Order", ⟨some "orders", [
      ⟨"party", "Customer", .manyToOne, none, none⟩,
      ⟨"party", "Supplier", .manyToOne, none, none⟩]⟩),
    ("Customer", ⟨some "customers", [⟨"address", "Address", .manyToOne, none, none⟩]⟩),
    ("Supplier", ⟨some "suppliers", [⟨"bank", "Bank", .manyToOne, none, none⟩]⟩)]⟩

theorem Catalog.get?_relationMap_ofParties :
    (ofParties.relationMap "Order").get? "party" = some (.ofEntries [("bank", .empty)]) := by
  have hmap : ofParties.relationMap "Order" = .ofEntries [
      ("party", .ofEntries [("bank", .ofEntries [])])] := by
    cbv
  rw [hmap]
  rfl

theorem innerJoin_reads_listed_entity_of_parties :
    let nested := .ofEntries [("bank", .empty)]
    '.' ∉ "order_".toList ∧ (Catalog.ofParties.relationMap "Order").get? "party" = some nested ∧
      Catalog.ofParties.Lists "Supplier" nested ∧ ¬ Catalog.ofParties.Lists "Customer" nested := by
  intro nested
  have halias : '.' ∉ "order_".toList := by decide
  have hget := Catalog.get?_relationMap_ofParties
  have hne : nested ≠ .empty := by simp [nested, RelationMap.empty]
  obtain ⟨first, last, hfirst, hlast, -, hlists, hiff⟩ :=
    innerJoin_reads_listed_entity_iff .ofParties "Order" "order_" "party" nested halias hget
  cases hfirst
  cases hlast
  refine ⟨halias, hget, hlists.resolve_left hne, fun hcustomer => ?_⟩
  have hsame := (hiff.mp (.inr hcustomer)).resolve_left hne
  have hbank := (hsame "address").mp (by decide)
  exact absurd hbank (by decide)

/-- Customers are joined, and what the map lists below them belongs to suppliers. -/
theorem innerJoin_reads_unlisted_entity_of_parties :
    ∃ nested, (Catalog.ofParties.relationMap "Order").get? "party" = some nested ∧
      nested.properties = ["bank"] ∧
      ((Select.ofEntity .ofParties "Order" "order_").innerJoin "order_.party" "party").joins =
        [⟨"order_.party", "party", some ⟨"customers", "party.id = order_.party_id"⟩⟩] ∧
      Catalog.ofParties.table "Customer" = "customers" ∧
      Catalog.ofParties.properties "Customer" = ["address"] :=
  ⟨_, Catalog.get?_relationMap_ofParties, rfl, by decide, rfl, by decide⟩

end FilterQuery
