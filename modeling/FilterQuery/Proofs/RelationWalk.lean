import FilterQuery.Proofs.RelationExpansion
import Mathlib.Data.List.Nodup

/-!
# The walk through a catalog

The walk that makes a relation map is written down here step by step, with the entities whose
relations it reads.  A step looks at the visited entities and at nothing else, so a walk that is
written down completely has ended on its own.  On every catalog there is such a walk from every
entity: cycles, targets that are not defined and properties that are declared twice included.  It
reads the relations of each reachable entity once, and so the map has no more keys than the catalog
has declarations.
-/

namespace FilterQuery

namespace RelationMap

theorem entriesKeyCount_set_le (property : String) (nested : RelationMap)
    (entries : List (String × RelationMap)) :
    entriesKeyCount (Sorted.set property nested entries) ≤
      entriesKeyCount entries + 1 + nested.keyCount := by
  induction entries with
  | nil =>
      simp only [Sorted.set, entriesKeyCount]
      omega
  | cons entry rest ih =>
      obtain ⟨key, value⟩ := entry
      rw [Sorted.set]
      split
      · simp only [entriesKeyCount]
        omega
      · split
        · simp only [entriesKeyCount]
          omega
        · simp only [entriesKeyCount]
          omega

/-- A property that is there already loses the keys of its old map. -/
theorem keyCount_insert_le (map : RelationMap) (property : String) (nested : RelationMap) :
    (map.insert property nested).keyCount ≤ map.keyCount + 1 + nested.keyCount := by
  obtain ⟨entries⟩ := map
  exact entriesKeyCount_set_le property nested entries

end RelationMap

namespace Catalog

/-! ## Declarations -/

/-- The relations that are declared anywhere in the catalog. -/
def declarations (catalog : Catalog) : List Relation :=
  catalog.entities.flatMap fun entry => entry.2.relations

theorem declaredTotal_congr {catalog other : Catalog} {entities : List String}
    (hsame : ∀ entity ∈ entities, catalog.relations entity = other.relations entity) :
    catalog.declaredTotal entities = other.declaredTotal entities := by
  induction entities with
  | nil => rfl
  | cons entity rest ih =>
      obtain ⟨hfirst, hrest⟩ := List.forall_mem_cons.mp hsame
      rw [declaredTotal, declaredTotal, hfirst, ih hrest]

theorem declaredTotal_append (catalog : Catalog) (entities others : List String) :
    catalog.declaredTotal (entities ++ others) =
      catalog.declaredTotal entities + catalog.declaredTotal others := by
  induction entities with
  | nil => simp [declaredTotal]
  | cons entity rest ih =>
      rw [List.cons_append, declaredTotal, declaredTotal, ih]
      omega

theorem relations_cons (name : String) (definition : Entity) (rest : Named Entity)
    (entity : String) :
    Catalog.relations ⟨(name, definition) :: rest⟩ entity =
      if name = entity then definition.relations else Catalog.relations ⟨rest⟩ entity := by
  unfold relations entity?
  rw [Named.get?]
  split
  · rfl
  · rfl

theorem declaredTotal_cons_le (name : String) (definition : Entity) (rest : Named Entity)
    {entities : List String} (hnodup : entities.Nodup) :
    declaredTotal ⟨(name, definition) :: rest⟩ entities ≤
      definition.relations.length + declaredTotal ⟨rest⟩ entities := by
  induction entities with
  | nil => exact Nat.zero_le _
  | cons entity others ih =>
      rw [List.nodup_cons] at hnodup
      rw [declaredTotal, declaredTotal, relations_cons]
      by_cases hname : name = entity
      · -- The name does not come again, so the others have the relations of the rest.
        have hothers : declaredTotal ⟨(name, definition) :: rest⟩ others =
            declaredTotal ⟨rest⟩ others := by
          apply declaredTotal_congr
          intro other hother
          rw [relations_cons, if_neg]
          rintro rfl
          exact hnodup.1 (hname ▸ hother)
        rw [if_pos hname, hothers]
        omega
      · have hle := ih hnodup.2
        rw [if_neg hname]
        omega

theorem declaredTotal_empty (entities : List String) :
    Catalog.empty.declaredTotal entities = 0 := by
  induction entities with
  | nil => rfl
  | cons entity rest ih =>
      rw [declaredTotal, ih]
      rfl

/-- Distinct entities do not share their declarations. -/
theorem declaredTotal_le (catalog : Catalog) {entities : List String}
    (hnodup : entities.Nodup) :
    catalog.declaredTotal entities ≤ catalog.declarations.length := by
  obtain ⟨definitions⟩ := catalog
  induction definitions with
  | nil => exact Nat.le_of_eq (declaredTotal_empty entities)
  | cons entry rest ih =>
      obtain ⟨name, definition⟩ := entry
      have hfirst := declaredTotal_cons_le name definition rest hnodup
      have hsplit : (declarations ⟨(name, definition) :: rest⟩).length =
          definition.relations.length + (declarations ⟨rest⟩).length := by
        simp [declarations]
      omega

/-! ## Walks -/

/-- A walk through relations, one after the other.  It starts with the map `before` and the entities
of `visited`, and ends with `map` and the entities of `after`.  On its way it reads the relations of
the entities in `reads`. -/
inductive Traverses (catalog : Catalog) :
    List Relation → RelationMap → List String → RelationMap → List String → List String → Prop
  | nil {before : RelationMap} {visited : List String} :
      Traverses catalog [] before visited before visited []
  | again {relation : Relation} {rest : List Relation} {before map : RelationMap}
      {visited after reads : List String} (hseen : relation.target ∈ visited)
      (hrest : Traverses catalog rest (before.insert relation.property .empty) visited map after
        reads) :
      Traverses catalog (relation :: rest) before visited map after reads
  | enter {relation : Relation} {rest : List Relation} {before nested map : RelationMap}
      {visited between after below reads : List String} (hnew : relation.target ∉ visited)
      (hbelow : Traverses catalog (catalog.relations relation.target) .empty
        (relation.target :: visited) nested between below)
      (hrest : Traverses catalog rest (before.insert relation.property nested) between map after
        reads) :
      Traverses catalog (relation :: rest) before visited map after
        (relation.target :: below ++ reads)

/-- The walk from a root entity, which is the first to be visited and to be read. -/
inductive TraversesFrom (catalog : Catalog) (root : String) :
    RelationMap → List String → List String → Prop
  | intro {map : RelationMap} {after below : List String}
      (hbelow : Traverses catalog (catalog.relations root) .empty [root] map after below) :
      TraversesFrom catalog root map after (root :: below)

namespace Traverses

variable {catalog : Catalog} {relations : List Relation} {before map otherMap : RelationMap}
  {visited after reads otherAfter otherReads : List String}

/-- No step has a choice. -/
theorem unique (hwalk : catalog.Traverses relations before visited map after reads)
    (hother : catalog.Traverses relations before visited otherMap otherAfter otherReads) :
    otherMap = map ∧ otherAfter = after ∧ otherReads = reads := by
  induction hwalk generalizing otherMap otherAfter otherReads with
  | nil =>
      cases hother
      exact ⟨rfl, rfl, rfl⟩
  | again hseen _ ih =>
      cases hother with
      | again _ hrest => exact ih hrest
      | enter hnew _ _ => exact absurd hseen hnew
  | enter hnew _ _ ihbelow ihrest =>
      cases hother with
      | again hseen _ => exact absurd hseen hnew
      | enter _ hbelow hrest =>
          obtain ⟨rfl, rfl, rfl⟩ := ihbelow hbelow
          obtain ⟨rfl, rfl, rfl⟩ := ihrest hrest
          exact ⟨rfl, rfl, rfl⟩

/-- The entities that are read are those that become visited, in the same order. -/
theorem after_eq (hwalk : catalog.Traverses relations before visited map after reads) :
    after = reads.reverse ++ visited := by
  induction hwalk with
  | nil => rfl
  | again _ _ ih => exact ih
  | enter _ _ _ ihbelow ihrest => simp [ihrest, ihbelow]

theorem mem_after_iff (hwalk : catalog.Traverses relations before visited map after reads)
    {entity : String} : entity ∈ after ↔ entity ∈ reads ∨ entity ∈ visited := by
  rw [hwalk.after_eq, List.mem_append, List.mem_reverse]

/-- An entity that is visited is not read again. -/
theorem nodup_after (hwalk : catalog.Traverses relations before visited map after reads)
    (hnodup : visited.Nodup) : after.Nodup := by
  induction hwalk with
  | nil => exact hnodup
  | again _ _ ih => exact ih hnodup
  | enter hnew _ _ ihbelow ihrest => exact ihrest (ihbelow (List.nodup_cons.mpr ⟨hnew, hnodup⟩))

theorem reachable {root : String}
    (hwalk : catalog.Traverses relations before visited map after reads)
    (hrelations : ∀ relation ∈ relations, catalog.Reachable root relation.target) :
    ∀ entity ∈ reads, catalog.Reachable root entity := by
  induction hwalk with
  | nil => simp
  | again _ _ ih => exact ih (List.forall_mem_cons.mp hrelations).2
  | enter _ _ _ ihbelow ihrest =>
      obtain ⟨hfirst, hlater⟩ := List.forall_mem_cons.mp hrelations
      intro entity hmem
      rw [List.mem_append, List.mem_cons] at hmem
      rcases hmem with (rfl | hbelow) | hrest
      · exact hfirst
      · exact ihbelow (fun _ hdeclared => hfirst.relation hdeclared) entity hbelow
      · exact ihrest hlater entity hrest

theorem target_mem_after (hwalk : catalog.Traverses relations before visited map after reads) :
    ∀ relation ∈ relations, relation.target ∈ after := by
  induction hwalk with
  | nil => simp
  | again hseen hrest ih =>
      exact List.forall_mem_cons.mpr ⟨hrest.mem_after_iff.mpr (.inr hseen), ih⟩
  | enter _ hbelow hrest _ ihrest =>
      have hfirst := hbelow.mem_after_iff.mpr (.inr List.mem_cons_self)
      exact List.forall_mem_cons.mpr ⟨hrest.mem_after_iff.mpr (.inr hfirst), ihrest⟩

/-- The walk goes on to the targets of all relations that it reads. -/
theorem closed (hwalk : catalog.Traverses relations before visited map after reads) :
    ∀ entity ∈ reads, ∀ relation ∈ catalog.relations entity, relation.target ∈ after := by
  induction hwalk with
  | nil => simp
  | again _ _ ih => exact ih
  | enter _ hbelow hrest ihbelow ihrest =>
      intro entity hmem relation hdeclared
      rw [List.mem_append, List.mem_cons] at hmem
      rcases hmem with (rfl | hmem) | hmem
      · exact hrest.mem_after_iff.mpr (.inr (hbelow.target_mem_after relation hdeclared))
      · exact hrest.mem_after_iff.mpr (.inr (ihbelow entity hmem relation hdeclared))
      · exact ihrest entity hmem relation hdeclared

/-- Every key was inserted for a declaration that was read. -/
theorem keyCount_le (hwalk : catalog.Traverses relations before visited map after reads) :
    map.keyCount ≤ before.keyCount + relations.length + catalog.declaredTotal reads := by
  induction hwalk with
  | nil => exact Nat.le_refl _
  | @again relation rest before map visited after reads _ _ ih =>
      have hinsert := before.keyCount_insert_le relation.property .empty
      have hempty : RelationMap.empty.keyCount = 0 := rfl
      rw [List.length_cons]
      omega
  | @enter relation rest before nested map visited between after below reads _ _ _ ihbelow
      ihrest =>
      have hinsert := before.keyCount_insert_le relation.property nested
      have hempty : RelationMap.empty.keyCount = 0 := rfl
      have hreads : catalog.declaredTotal (relation.target :: below ++ reads) =
          (catalog.relations relation.target).length + catalog.declaredTotal below +
            catalog.declaredTotal reads := by
        rw [List.cons_append, declaredTotal, declaredTotal_append]
        omega
      rw [List.length_cons, hreads]
      omega

end Traverses

/-- The walk of the program is such a walk. -/
theorem exists_traverses (catalog : Catalog) (relations : List Relation) (before : RelationMap)
    (visited : List String) :
    ∃ reads, catalog.Traverses relations before visited
      (catalog.expandRelations relations before visited).1
      (catalog.expandRelations relations before visited).2.val reads := by
  -- An entity that is new leads through its relations, wherever the walk meets it.
  induction relations, before, visited using expandRelations.induct catalog
    (fun entity visited => entity ∉ visited →
      ∃ reads, catalog.Traverses (catalog.relations entity) .empty (entity :: visited)
        (catalog.expandFrom entity visited).1 (catalog.expandFrom entity visited).2.val reads) with
  | case1 entity visited hseen hnew => exact absurd hseen hnew
  | case2 entity visited hnew hentity =>
      have hrelations : catalog.relations entity = [] := by
        rw [relations, hentity]
        rfl
      obtain ⟨hmap, hafter⟩ := catalog.expandFrom_of_notMem hnew
      rw [hmap, hafter, hrelations, expandRelations]
      exact ⟨[], .nil⟩
  | case3 entity visited hnew definition hentity map after hbetween heq ih =>
      have hrelations : catalog.relations entity = definition.relations := by
        rw [relations, hentity]
        rfl
      obtain ⟨hmap, hafter⟩ := catalog.expandFrom_of_notMem hnew
      rw [hmap, hafter, hrelations]
      exact ih
  | case4 before visited =>
      rw [expandRelations]
      exact ⟨[], .nil⟩
  | case5 relation rest before visited nested between hbetween hnested map after hafter hrest
      ihnested ihrest =>
      rw [expandRelations, hnested]
      simp only [hrest]
      rw [hrest] at ihrest
      rw [hnested] at ihnested
      obtain ⟨reads, hreads⟩ := ihrest
      by_cases hseen : relation.target ∈ visited
      · rw [expandFrom, dif_pos hseen] at hnested
        cases hnested
        exact ⟨reads, .again hseen hreads⟩
      · obtain ⟨below, hbelow⟩ := ihnested hseen
        exact ⟨relation.target :: below ++ reads, .enter hseen hbelow hreads⟩

/-- From every entity of every catalog there is one walk, and it is the one that makes the relation
map.  It reads the relations of an entity once, ends with the reachable entities visited, and leaves
no more keys than it has read declarations. -/
theorem relationMap_reads_reachable_once (catalog : Catalog) (root : String) :
    let visited := (catalog.expandFrom root []).2.val
    ∃ reads : List String,
      (∀ map after others, catalog.TraversesFrom root map after others ↔
        map = catalog.relationMap root ∧ after = visited ∧ others = reads) ∧
      reads.Nodup ∧
      (∀ entity, entity ∈ visited ↔ catalog.Reachable root entity) ∧
      (catalog.relationMap root).keyCount ≤ catalog.declaredTotal reads ∧
      catalog.declaredTotal reads ≤ catalog.declarations.length := by
  intro visited
  obtain ⟨hmap, hafter⟩ := catalog.expandFrom_of_notMem (List.not_mem_nil (a := root))
  obtain ⟨below, hwalk⟩ := catalog.exists_traverses (catalog.relations root) .empty [root]
  rw [← hmap, ← hafter] at hwalk
  change catalog.Traverses _ _ _ (catalog.relationMap root) visited below at hwalk
  have hnodup : (root :: below).Nodup := by
    have hvisited := hwalk.nodup_after (List.nodup_singleton root)
    rw [hwalk.after_eq, ← List.reverse_cons, List.nodup_reverse] at hvisited
    exact hvisited
  refine ⟨root :: below, ?_, hnodup, ?_, ?_, catalog.declaredTotal_le hnodup⟩
  · intro map after others
    constructor
    · rintro ⟨hother⟩
      obtain ⟨rfl, rfl, rfl⟩ := hwalk.unique hother
      exact ⟨rfl, rfl, rfl⟩
    · rintro ⟨rfl, rfl, rfl⟩
      exact .intro hwalk
  · intro entity
    rw [hwalk.mem_after_iff, List.mem_singleton]
    constructor
    · rintro (hread | rfl)
      · exact hwalk.reachable (fun _ hdeclared => .relation .root hdeclared) entity hread
      · exact .root
    · intro hreachable
      induction hreachable with
      | root => exact .inr rfl
      | @relation owner relation _ hdeclared ih =>
          rw [← List.mem_singleton, ← hwalk.mem_after_iff]
          rcases ih with hread | rfl
          · exact hwalk.closed owner hread relation hdeclared
          · exact hwalk.target_mem_after relation hdeclared
  · have hle := hwalk.keyCount_le
    have hempty : RelationMap.empty.keyCount = 0 := rfl
    rw [declaredTotal]
    omega

end Catalog

end FilterQuery
