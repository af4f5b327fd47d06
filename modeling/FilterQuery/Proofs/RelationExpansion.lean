import FilterQuery.Schema.Expansion

/-!
# First visits

A relation map is a tree.  Its positions are paths of properties, and following the declared
relations along such a path from the root entity leads to the entity of the position.  This file
lists the positions in depth-first order of declaration and shows what the walk leaves at each of
them: all properties of its entity where the entity is met for the first time, and nothing where it
is met again.
-/

namespace FilterQuery

namespace RelationMap

/-- The map at the end of a path of properties. -/
def at? : RelationMap → List String → Option RelationMap
  | map, [] => some map
  | map, property :: path => (map.get? property).bind fun nested => nested.at? path

mutual

/-- The number of keys at all levels. -/
def keyCount : RelationMap → Nat
  | .ofEntries entries => entriesKeyCount entries
termination_by structural map => map

def entriesKeyCount : List (String × RelationMap) → Nat
  | [] => 0
  | (_, nested) :: rest => 1 + nested.keyCount + entriesKeyCount rest
termination_by structural entries => entries

end

theorem at?_append (map : RelationMap) (path more : List String) :
    map.at? (path ++ more) = (map.at? path).bind fun nested => nested.at? more := by
  induction path generalizing map with
  | nil => rfl
  | cons property path ih =>
      rw [List.cons_append, at?, at?]
      cases map.get? property with
      | none => rfl
      | some nested => exact ih nested

theorem sizeOf_lt_of_get? {map nested : RelationMap} {property : String}
    (hget : map.get? property = some nested) : sizeOf nested < sizeOf map := by
  obtain ⟨entries⟩ := map
  have hentries : sizeOf nested < sizeOf entries := by
    change Sorted.get? property entries = some nested at hget
    induction entries with
    | nil => simp at hget
    | cons entry rest ih =>
        obtain ⟨key, value⟩ := entry
        rw [Sorted.get?] at hget
        split at hget
        · cases hget
          simp only [List.cons.sizeOf_spec, Prod.mk.sizeOf_spec]
          omega
        · have hrest := ih hget
          simp only [List.cons.sizeOf_spec]
          omega
  simp only [ofEntries.sizeOf_spec]
  omega

theorem entriesKeyCount_perm {entries others : List (String × RelationMap)}
    (hperm : entries.Perm others) : entriesKeyCount entries = entriesKeyCount others := by
  induction hperm with
  | nil => rfl
  | cons entry _ ih => rw [entriesKeyCount, entriesKeyCount, ih]
  | swap first second rest =>
      simp only [entriesKeyCount]
      omega
  | trans _ _ hfirst hsecond => exact hfirst.trans hsecond

theorem keyCount_insert {map : RelationMap} {property : String}
    (hnew : map.get? property = none) (nested : RelationMap) :
    (map.insert property nested).keyCount = map.keyCount + 1 + nested.keyCount := by
  obtain ⟨entries⟩ := map
  have hperm := Sorted.set_perm hnew nested
  rw [insert, keyCount, entriesKeyCount_perm hperm, entriesKeyCount, keyCount]
  simp only [RelationMap.entries]
  omega

end RelationMap

namespace Catalog

/-! ## Entities along paths -/

/-- No entity declares a property twice. -/
def PropertiesDistinct (catalog : Catalog) : Prop :=
  ∀ entity, ((catalog.relations entity).map Relation.property).Nodup

/-- The entity at the end of a path of declared relations. -/
def follow? (catalog : Catalog) : String → List String → Option String
  | entity, [] => some entity
  | entity, property :: path =>
      (catalog.relation? entity property).bind fun relation =>
        catalog.follow? relation.target path

inductive Reachable (catalog : Catalog) (root : String) : String → Prop
  | root : Reachable catalog root root
  | relation {owner : String} {relation : Relation} (howner : Reachable catalog root owner)
      (hdeclared : relation ∈ catalog.relations owner) : Reachable catalog root relation.target

variable {catalog : Catalog} {entity property label : String} {relation : Relation}
  {path more : List String} {map nested : RelationMap}

theorem propertiesDistinct_of_entities
    (hentities : ∀ entry ∈ catalog.entities, (entry.2.relations.map Relation.property).Nodup) :
    catalog.PropertiesDistinct := by
  intro entity
  unfold relations
  cases hentity : catalog.entity? entity with
  | none => exact List.nodup_nil
  | some definition => exact hentities _ (mem_entities_of_entity? hentity)

theorem declared_of_relation? (hrelation : catalog.relation? entity property = some relation) :
    relation ∈ catalog.relations entity ∧ relation.property = property := by
  unfold relation? at hrelation
  have hproperty := List.find?_some hrelation
  exact ⟨List.mem_of_find?_eq_some hrelation, beq_iff_eq.mp hproperty⟩

theorem PropertiesDistinct.relation?_eq (hdistinct : catalog.PropertiesDistinct)
    (hdeclared : relation ∈ catalog.relations entity) :
    catalog.relation? entity relation.property = some relation := by
  have hnodup := hdistinct entity
  unfold relation?
  generalize catalog.relations entity = relations at hdeclared hnodup
  induction relations with
  | nil => exact absurd hdeclared List.not_mem_nil
  | cons first rest ih =>
      rw [List.map_cons, List.nodup_cons] at hnodup
      rw [List.find?_cons]
      rcases List.mem_cons.mp hdeclared with rfl | hmem
      · simp
      · have hne : first.property ≠ relation.property := by
          intro heq
          exact hnodup.1 (List.mem_map.mpr ⟨relation, hmem, heq.symm⟩)
        rw [beq_false_of_ne hne]
        exact ih hmem hnodup.2

theorem follow?_append (catalog : Catalog) (entity : String) (path more : List String) :
    catalog.follow? entity (path ++ more) =
      (catalog.follow? entity path).bind fun label => catalog.follow? label more := by
  induction path generalizing entity with
  | nil => rfl
  | cons property path ih =>
      rw [List.cons_append, follow?, follow?]
      cases catalog.relation? entity property with
      | none => rfl
      | some relation => exact ih relation.target

theorem Reachable.follow? {root : String} (howner : catalog.Reachable root entity)
    (hfollow : catalog.follow? entity path = some label) : catalog.Reachable root label := by
  induction path generalizing entity with
  | nil =>
      cases hfollow
      exact howner
  | cons property path ih =>
      rw [Catalog.follow?, Option.bind_eq_some_iff] at hfollow
      obtain ⟨relation, hrelation, hfollow⟩ := hfollow
      exact ih (howner.relation (declared_of_relation? hrelation).1) hfollow

/-- The map has nothing but declared properties, and so have the maps below them. -/
inductive Charted (catalog : Catalog) : String → RelationMap → Prop
  | intro {entity : String} {map : RelationMap}
      (hproperties : map.properties ⊆ (catalog.relations entity).map Relation.property)
      (hbelow : ∀ relation ∈ catalog.relations entity, ∀ nested,
        map.get? relation.property = some nested → Charted catalog relation.target nested) :
      Charted catalog entity map

theorem Charted.exists_relation (hcharted : catalog.Charted entity map)
    (hdistinct : catalog.PropertiesDistinct) (hget : map.get? property = some nested) :
    ∃ relation, catalog.relation? entity property = some relation ∧
      catalog.Charted relation.target nested := by
  obtain ⟨hproperties, hbelow⟩ := hcharted
  have hmem : property ∈ map.properties :=
    RelationMap.isSome_get?_iff.mp (Option.isSome_of_eq_some hget)
  obtain ⟨relation, hdeclared, rfl⟩ := List.mem_map.mp (hproperties hmem)
  exact ⟨relation, hdistinct.relation?_eq hdeclared, hbelow relation hdeclared nested hget⟩

theorem Charted.exists_follow? (hcharted : catalog.Charted entity map)
    (hdistinct : catalog.PropertiesDistinct) (hat : map.at? path = some nested) :
    ∃ label, catalog.follow? entity path = some label ∧ catalog.Charted label nested := by
  induction path generalizing entity map with
  | nil =>
      cases hat
      exact ⟨entity, rfl, hcharted⟩
  | cons property path ih =>
      rw [RelationMap.at?, Option.bind_eq_some_iff] at hat
      obtain ⟨inner, hget, hat⟩ := hat
      obtain ⟨relation, hrelation, hinner⟩ := hcharted.exists_relation hdistinct hget
      rw [follow?, hrelation]
      exact ih hinner hat

end Catalog

/-! ## Positions in depth-first order -/

/-- A position of a relation map, with its entity and the map that is found there. -/
structure Visit where
  path : List String
  entity : String
  map : RelationMap

namespace Visit

def below (property : String) (visit : Visit) : Visit :=
  { visit with path := property :: visit.path }

@[simp] theorem below_path (property : String) (visit : Visit) :
    (visit.below property).path = property :: visit.path := rfl

@[simp] theorem below_entity (property : String) (visit : Visit) :
    (visit.below property).entity = visit.entity := rfl

@[simp] theorem below_map (property : String) (visit : Visit) :
    (visit.below property).map = visit.map := rfl

theorem of_filter_eq_cons {visits others : List Visit} {first : Visit} {label : String}
    (hfilter : visits.filter (fun visit => visit.entity = label) = first :: others) :
    first ∈ visits ∧ first.entity = label := by
  have hmem : first ∈ first :: others := List.mem_cons_self
  rw [← hfilter, List.mem_filter, decide_eq_true_eq] at hmem
  exact hmem

/-- The number of keys at the positions, those of each position counted apart. -/
def keyTotal : List Visit → Nat
  | [] => 0
  | visit :: rest => visit.map.size + keyTotal rest

theorem keyTotal_append (visits others : List Visit) :
    keyTotal (visits ++ others) = keyTotal visits + keyTotal others := by
  induction visits with
  | nil => simp [keyTotal]
  | cons visit rest ih =>
      rw [List.cons_append, keyTotal, keyTotal, ih, Nat.add_assoc]

theorem keyTotal_map_below (property : String) (visits : List Visit) :
    keyTotal (visits.map (below property)) = keyTotal visits := by
  induction visits with
  | nil => rfl
  | cons visit rest ih => rw [List.map_cons, keyTotal, keyTotal, ih, below_map]

end Visit

namespace Catalog

/-- The positions of a relation map in depth-first order: a position comes before those below it,
and these come in the order in which the relations are declared. -/
def visits (catalog : Catalog) (entity : String) (map : RelationMap) : List Visit :=
  ⟨[], entity, map⟩ :: (catalog.relations entity).flatMap fun relation =>
    match _hget : map.get? relation.property with
    | some nested => (catalog.visits relation.target nested).map (.below relation.property)
    | none => []
termination_by sizeOf map
decreasing_by exact RelationMap.sizeOf_lt_of_get? _hget

/-- The positions at and below a relation of the root entity. -/
def visitsUnder (catalog : Catalog) (map : RelationMap) (relation : Relation) : List Visit :=
  match map.get? relation.property with
  | some nested => (catalog.visits relation.target nested).map (.below relation.property)
  | none => []

theorem visits_eq (catalog : Catalog) (entity : String) (map : RelationMap) :
    catalog.visits entity map =
      ⟨[], entity, map⟩ :: (catalog.relations entity).flatMap (catalog.visitsUnder map) := by
  rw [visits]
  congr 2
  funext relation
  rw [visitsUnder]
  split
  next nested hget => rw [hget]
  next hget => rw [hget]

theorem visitsUnder_of_get? {catalog : Catalog} {map nested : RelationMap} {relation : Relation}
    (hget : map.get? relation.property = some nested) :
    catalog.visitsUnder map relation =
      (catalog.visits relation.target nested).map (.below relation.property) := by
  rw [visitsUnder, hget]

@[simp] theorem visits_empty (catalog : Catalog) (entity : String) :
    catalog.visits entity .empty = [⟨[], entity, .empty⟩] := by
  rw [visits_eq, List.flatMap_eq_nil_iff.mpr]
  intro relation _
  rw [visitsUnder, RelationMap.get?_empty]

theorem mem_visitsUnder {catalog : Catalog} {map : RelationMap} {relation : Relation}
    {visit : Visit} :
    visit ∈ catalog.visitsUnder map relation ↔
      ∃ nested, map.get? relation.property = some nested ∧
        ∃ inner ∈ catalog.visits relation.target nested,
          inner.below relation.property = visit := by
  rw [visitsUnder]
  cases map.get? relation.property with
  | none => simp
  | some nested => simp

theorem exists_path_of_mem_visitsUnder {catalog : Catalog} {map : RelationMap}
    {relation : Relation} {visit : Visit} (hmem : visit ∈ catalog.visitsUnder map relation) :
    ∃ path, visit.path = relation.property :: path := by
  obtain ⟨nested, -, inner, -, rfl⟩ := mem_visitsUnder.mp hmem
  exact ⟨inner.path, rfl⟩

/-- The listed positions are the positions of the map whose entity can be told. -/
theorem PropertiesDistinct.mem_visits_iff {catalog : Catalog}
    (hdistinct : catalog.PropertiesDistinct) {entity label : String} {map nested : RelationMap}
    {path : List String} :
    ⟨path, label, nested⟩ ∈ catalog.visits entity map ↔
      map.at? path = some nested ∧ catalog.follow? entity path = some label := by
  induction path generalizing entity map with
  | nil =>
      rw [visits_eq, List.mem_cons, List.mem_flatMap]
      constructor
      · rintro (heq | ⟨relation, -, hunder⟩)
        · cases heq
          exact ⟨rfl, rfl⟩
        · obtain ⟨path, hpath⟩ := exists_path_of_mem_visitsUnder hunder
          cases hpath
      · rintro ⟨hat, hfollow⟩
        cases hat
        cases hfollow
        exact .inl rfl
  | cons property path ih =>
      rw [visits_eq, List.mem_cons, List.mem_flatMap, RelationMap.at?, follow?,
        Option.bind_eq_some_iff, Option.bind_eq_some_iff]
      constructor
      · rintro (heq | ⟨relation, hdeclared, hunder⟩)
        · cases heq
        · obtain ⟨inner, hget, ⟨_, _, _⟩, hvisit, heq⟩ := mem_visitsUnder.mp hunder
          cases heq
          obtain ⟨hat, hfollow⟩ := ih.mp hvisit
          exact ⟨⟨inner, hget, hat⟩, relation, hdistinct.relation?_eq hdeclared, hfollow⟩
      · rintro ⟨⟨inner, hget, hat⟩, relation, hrelation, hfollow⟩
        obtain ⟨hdeclared, rfl⟩ := declared_of_relation? hrelation
        exact .inr ⟨relation, hdeclared, mem_visitsUnder.mpr
          ⟨inner, hget, ⟨path, label, nested⟩, ih.mpr ⟨hat, hfollow⟩, rfl⟩⟩

theorem PropertiesDistinct.nodup_visits {catalog : Catalog}
    (hdistinct : catalog.PropertiesDistinct) (entity : String) (map : RelationMap) :
    ((catalog.visits entity map).map Visit.path).Nodup := by
  induction entity, map using visits.induct with
  | case1 entity map ih =>
      rw [visits_eq, List.map_cons, List.nodup_cons]
      constructor
      · intro hmem
        obtain ⟨visit, hvisit, hpath⟩ := List.mem_map.mp hmem
        obtain ⟨relation, -, hunder⟩ := List.mem_flatMap.mp hvisit
        obtain ⟨path, hcons⟩ := exists_path_of_mem_visitsUnder hunder
        rw [hpath] at hcons
        cases hcons
      · unfold List.Nodup
        rw [List.pairwise_map, List.pairwise_flatMap]
        constructor
        · intro relation _
          cases hget : map.get? relation.property with
          | none =>
              rw [visitsUnder, hget]
              exact List.Pairwise.nil
          | some nested =>
              have hnested := ih relation nested hget
              unfold List.Nodup at hnested
              rw [List.pairwise_map] at hnested
              rw [visitsUnder_of_get? hget, List.pairwise_map]
              exact hnested.imp fun hne heq => hne (List.tail_eq_of_cons_eq heq)
        · have hproperties := hdistinct entity
          unfold List.Nodup at hproperties
          rw [List.pairwise_map] at hproperties
          refine hproperties.imp fun hne first hfirst second hsecond heq => hne ?_
          obtain ⟨path, hpath⟩ := exists_path_of_mem_visitsUnder hfirst
          obtain ⟨other, hother⟩ := exists_path_of_mem_visitsUnder hsecond
          rw [hpath, hother] at heq
          exact List.head_eq_of_cons_eq heq

/-! ## First visits -/

/-- At a position whose entity was not seen before there are all properties of the entity, and at
any other position there is nothing. -/
inductive FirstVisits (catalog : Catalog) : List String → List Visit → Prop
  | nil {seen : List String} : FirstVisits catalog seen []
  | first {seen : List String} {visit : Visit} {rest : List Visit} (hnew : visit.entity ∉ seen)
      (hall : visit.map.properties.Perm
        ((catalog.relations visit.entity).map Relation.property))
      (hrest : FirstVisits catalog (visit.entity :: seen) rest) :
      FirstVisits catalog seen (visit :: rest)
  | again {seen : List String} {visit : Visit} {rest : List Visit} (hseen : visit.entity ∈ seen)
      (hnothing : visit.map = .empty) (hrest : FirstVisits catalog seen rest) :
      FirstVisits catalog seen (visit :: rest)

/-- The number of relations that entities declare together. -/
def declaredTotal (catalog : Catalog) : List String → Nat
  | [] => 0
  | entity :: rest => (catalog.relations entity).length + catalog.declaredTotal rest

namespace FirstVisits

variable {catalog : Catalog} {seen other : List String} {visits more : List Visit}
  {label : String}

theorem congr (hfirst : catalog.FirstVisits seen visits)
    (hsame : ∀ entity, entity ∈ seen ↔ entity ∈ other) : catalog.FirstVisits other visits := by
  induction hfirst generalizing other with
  | nil => exact .nil
  | first hnew hall _ ih =>
      refine .first (fun hmem => hnew ((hsame _).mpr hmem)) hall (ih fun entity => ?_)
      rw [List.mem_cons, List.mem_cons, hsame entity]
  | again hseen hnothing _ ih => exact .again ((hsame _).mp hseen) hnothing (ih hsame)

theorem append (hfirst : catalog.FirstVisits seen visits)
    (hmore : catalog.FirstVisits (visits.map Visit.entity ++ seen) more) :
    catalog.FirstVisits seen (visits ++ more) := by
  -- Both sides have seen the same entities, but not in the same order.
  induction hfirst with
  | nil => exact hmore
  | first hnew hall _ ih =>
      refine .first hnew hall (ih (hmore.congr fun entity => ?_))
      simp only [List.map_cons, List.cons_append, List.mem_cons, List.mem_append]
      exact or_left_comm
  | @again seen visit rest hseen hnothing _ ih =>
      refine .again hseen hnothing (ih (hmore.congr fun entity => ?_))
      simp only [List.map_cons, List.cons_append, List.mem_cons, List.mem_append]
      refine or_iff_right_of_imp ?_
      rintro rfl
      exact .inr hseen

theorem map_below (hfirst : catalog.FirstVisits seen visits) (property : String) :
    catalog.FirstVisits seen (visits.map (.below property)) := by
  induction hfirst with
  | nil => exact .nil
  | first hnew hall _ ih => exact .first hnew hall ih
  | again hseen hnothing _ ih => exact .again hseen hnothing ih

theorem eq_empty (hfirst : catalog.FirstVisits seen visits) (hseen : label ∈ seen) :
    ∀ visit ∈ visits, visit.entity = label → visit.map = .empty := by
  induction hfirst with
  | nil => simp
  | first hnew _ _ ih =>
      intro visit hmem heq
      rcases List.mem_cons.mp hmem with rfl | hmem
      · exact absurd (heq ▸ hseen) hnew
      · exact ih (List.mem_cons_of_mem _ hseen) visit hmem heq
  | again _ hnothing _ ih =>
      intro visit hmem heq
      rcases List.mem_cons.mp hmem with rfl | hmem
      · exact hnothing
      · exact ih hseen visit hmem heq

/-- Of the positions of an entity the first has all properties and the others have none. -/
theorem exists_first (hfirst : catalog.FirstVisits seen visits) (hnew : label ∉ seen)
    (hmem : label ∈ visits.map Visit.entity) :
    ∃ first others, visits.filter (fun visit => visit.entity = label) = first :: others ∧
      first.map.properties.Perm ((catalog.relations label).map Relation.property) ∧
      ∀ other ∈ others, other.map = .empty := by
  induction hfirst with
  | nil => exact absurd hmem List.not_mem_nil
  | @first seen visit rest _ hall hrest ih =>
      by_cases heq : visit.entity = label
      · refine ⟨visit, rest.filter fun visit => visit.entity = label, ?_, heq ▸ hall, ?_⟩
        · rw [List.filter_cons, if_pos (decide_eq_true heq)]
        · intro other hother
          obtain ⟨hother, hentity⟩ := List.mem_filter.mp hother
          exact hrest.eq_empty (heq ▸ List.mem_cons_self) other hother
            (of_decide_eq_true hentity)
      · rw [List.filter_cons, if_neg (by simpa using heq)]
        rw [List.map_cons, List.mem_cons] at hmem
        refine ih (fun hseen => ?_) (hmem.resolve_left (Ne.symm heq))
        rcases List.mem_cons.mp hseen with hlabel | hseen
        · exact heq hlabel.symm
        · exact hnew hseen
  | @again seen visit rest hseen _ _ ih =>
      have hne : visit.entity ≠ label := fun heq => hnew (heq ▸ hseen)
      rw [List.filter_cons, if_neg (by simpa using hne)]
      rw [List.map_cons, List.mem_cons] at hmem
      exact ih hnew (hmem.resolve_left (Ne.symm hne))

/-- An entity has only one position that is not empty. -/
theorem eq_of_ne_empty (hfirst : catalog.FirstVisits [] visits) {visit same : Visit}
    (hvisit : visit ∈ visits) (hsame : same ∈ visits) (hentity : visit.entity = same.entity)
    (hvisitMap : visit.map ≠ .empty) (hsameMap : same.map ≠ .empty) : visit = same := by
  obtain ⟨first, others, hfilter, -, hothers⟩ :=
    hfirst.exists_first List.not_mem_nil (List.mem_map.mpr ⟨same, hsame, rfl⟩)
  have hunique : ∀ visit ∈ visits, visit.entity = same.entity → visit.map ≠ .empty →
      visit = first := by
    intro visit hmem hlabel hmap
    have hkept : visit ∈ visits.filter fun visit => visit.entity = same.entity :=
      List.mem_filter.mpr ⟨hmem, decide_eq_true hlabel⟩
    rw [hfilter, List.mem_cons] at hkept
    exact hkept.resolve_right fun hother => hmap (hothers visit hother)
  rw [hunique visit hvisit hentity hvisitMap, hunique same hsame rfl hsameMap]

/-- Each entity that is new counts with the relations it declares, and only once. -/
theorem keyTotal_eq (hfirst : catalog.FirstVisits seen visits) :
    ∃ entities : List String, entities.Nodup ∧
      (∀ entity, entity ∈ entities ↔ entity ∈ visits.map Visit.entity ∧ entity ∉ seen) ∧
      Visit.keyTotal visits = catalog.declaredTotal entities := by
  induction hfirst with
  | nil => exact ⟨[], List.nodup_nil, by simp, rfl⟩
  | @first seen visit rest hnew hall _ ih =>
      obtain ⟨entities, hnodup, hmem, htotal⟩ := ih
      refine ⟨visit.entity :: entities, ?_, ?_, ?_⟩
      · rw [List.nodup_cons]
        exact ⟨fun hagain => ((hmem _).mp hagain).2 List.mem_cons_self, hnodup⟩
      · intro entity
        rw [List.mem_cons, hmem, List.map_cons, List.mem_cons, List.mem_cons]
        by_cases heq : entity = visit.entity
        · simp [heq, hnew]
        · simp [heq]
      · have hsize : visit.map.size = (catalog.relations visit.entity).length := by
          have hlength := hall.length_eq
          rw [List.length_map, RelationMap.properties, List.length_map] at hlength
          exact hlength
        rw [Visit.keyTotal, declaredTotal, hsize, htotal]
  | @again seen visit rest hseen hnothing _ ih =>
      obtain ⟨entities, hnodup, hmem, htotal⟩ := ih
      refine ⟨entities, hnodup, ?_, ?_⟩
      · intro entity
        rw [hmem, List.map_cons, List.mem_cons]
        by_cases heq : entity = visit.entity
        · simp [heq, hseen]
        · simp [heq]
      · rw [Visit.keyTotal, hnothing, htotal]
        exact Nat.zero_add _

end FirstVisits

/-! ## The walk through a catalog -/

/-- A walk that starts with the entities of `visited` finds `visits` and ends with those of
`after`. -/
structure Walk (catalog : Catalog) (visited : List String) (visits : List Visit)
    (after : List String) : Prop where
  firstVisits : catalog.FirstVisits visited visits
  mem_after : ∀ entity, entity ∈ after ↔ entity ∈ visits.map Visit.entity ∨ entity ∈ visited

namespace Walk

variable {catalog : Catalog} {visited between after : List String} {visits more : List Visit}

theorem nil : catalog.Walk visited [] visited :=
  ⟨.nil, by simp⟩

theorem append (hwalk : catalog.Walk visited visits between)
    (hmore : catalog.Walk between more after) : catalog.Walk visited (visits ++ more) after := by
  constructor
  · refine hwalk.firstVisits.append (hmore.firstVisits.congr fun entity => ?_)
    rw [hwalk.mem_after, List.mem_append]
  · intro entity
    rw [hmore.mem_after, hwalk.mem_after, List.map_append, List.mem_append, ← or_assoc,
      or_comm (a := entity ∈ more.map Visit.entity)]

theorem map_below (hwalk : catalog.Walk visited visits after) (property : String) :
    catalog.Walk visited (visits.map (.below property)) after := by
  refine ⟨hwalk.firstVisits.map_below property, fun entity => ?_⟩
  rw [hwalk.mem_after, List.map_map]
  rfl

theorem again {entity : String} (hseen : entity ∈ visited) :
    catalog.Walk visited [⟨[], entity, .empty⟩] visited := by
  refine ⟨.again hseen rfl .nil, fun other => ?_⟩
  rw [List.map_singleton, List.mem_singleton]
  exact (or_iff_right_of_imp fun heq => heq ▸ hseen).symm

theorem enter {entity : String} {map : RelationMap} (hnew : entity ∉ visited)
    (hall : map.properties.Perm ((catalog.relations entity).map Relation.property))
    (hwalk : catalog.Walk (entity :: visited) visits after) :
    catalog.Walk visited (⟨[], entity, map⟩ :: visits) after := by
  refine ⟨.first hnew hall hwalk.firstVisits, fun other => ?_⟩
  rw [hwalk.mem_after, List.map_cons, List.mem_cons, List.mem_cons]
  exact or_left_comm.trans or_assoc.symm

end Walk

/-- What is known of the map of an entity when the walk leaves it. -/
structure Expanded (catalog : Catalog) (entity : String) (visited : List String)
    (map : RelationMap) (after : List String) : Prop where
  walk : catalog.Walk visited (catalog.visits entity map) after
  charted : catalog.Charted entity map
  keyCount : map.keyCount = Visit.keyTotal (catalog.visits entity map)

/-- What is known of the map of an entity when some of its relations have been added to those of
`before`. -/
structure ExpandedBelow (catalog : Catalog) (relations : List Relation) (before : RelationMap)
    (visited : List String) (map : RelationMap) (after : List String) : Prop where
  get?_eq : ∀ property, property ∉ relations.map Relation.property →
    map.get? property = before.get? property
  properties : map.properties.Perm (relations.map Relation.property ++ before.properties)
  walk : catalog.Walk visited (relations.flatMap (catalog.visitsUnder map)) after
  charted : ∀ relation ∈ relations, ∀ nested, map.get? relation.property = some nested →
    catalog.Charted relation.target nested
  keyCount : map.keyCount = before.keyCount + relations.length +
    Visit.keyTotal (relations.flatMap (catalog.visitsUnder map))

namespace ExpandedBelow

variable {catalog : Catalog} {relation : Relation} {rest : List Relation}
  {before nested map : RelationMap} {visited between after : List String}

theorem nil : catalog.ExpandedBelow [] before visited before visited where
  get?_eq := fun _ _ => rfl
  properties := List.Perm.refl _
  walk := .nil
  charted := by simp
  keyCount := rfl

theorem cons (hnodup : ((relation :: rest).map Relation.property).Nodup)
    (hnew : before.get? relation.property = none)
    (hnested : catalog.Expanded relation.target visited nested between)
    (hrest : catalog.ExpandedBelow rest (before.insert relation.property nested) between map
      after) :
    catalog.ExpandedBelow (relation :: rest) before visited map after := by
  rw [List.map_cons, List.nodup_cons] at hnodup
  have hget : map.get? relation.property = some nested := by
    rw [hrest.get?_eq _ hnodup.1, RelationMap.get?_insert_self]
  constructor
  · intro property hnotMem
    rw [List.map_cons, List.mem_cons, not_or] at hnotMem
    rw [hrest.get?_eq _ hnotMem.2, RelationMap.get?_insert_of_ne hnotMem.1]
  · have hinsert := RelationMap.properties_insert hnew nested
    exact (hrest.properties.trans (hinsert.append_left _)).trans List.perm_middle
  · rw [List.flatMap_cons, visitsUnder_of_get? hget]
    exact (hnested.walk.map_below _).append hrest.walk
  · intro declared hmem inner hinner
    rcases List.mem_cons.mp hmem with rfl | hmem
    · rw [hget] at hinner
      cases hinner
      exact hnested.charted
    · exact hrest.charted declared hmem inner hinner
  · rw [hrest.keyCount, RelationMap.keyCount_insert hnew, hnested.keyCount, List.flatMap_cons,
      visitsUnder_of_get? hget, Visit.keyTotal_append, Visit.keyTotal_map_below, List.length_cons]
    omega

end ExpandedBelow

namespace Expanded

variable {catalog : Catalog} {entity : String} {map : RelationMap} {visited after : List String}

theorem again (hseen : entity ∈ visited) :
    catalog.Expanded entity visited .empty visited := by
  constructor
  · rw [visits_empty]
    exact .again hseen
  · exact .intro (List.nil_subset _) (by simp)
  · rw [visits_empty]
    rfl

theorem enter (hnew : entity ∉ visited)
    (hbelow : catalog.ExpandedBelow (catalog.relations entity) .empty (entity :: visited) map
      after) :
    catalog.Expanded entity visited map after := by
  have hall : map.properties.Perm ((catalog.relations entity).map Relation.property) := by
    have hproperties := hbelow.properties
    rwa [show RelationMap.empty.properties = [] from rfl, List.append_nil] at hproperties
  constructor
  · rw [visits_eq]
    exact hbelow.walk.enter hnew hall
  · exact .intro hall.subset hbelow.charted
  · have hsize := hall.length_eq
    rw [RelationMap.properties, List.length_map, List.length_map] at hsize
    rw [hbelow.keyCount, visits_eq, Visit.keyTotal, RelationMap.size, hsize]
    exact congrArg (· + _) (Nat.zero_add _)

end Expanded

theorem PropertiesDistinct.expanded_expandFrom {catalog : Catalog}
    (hdistinct : catalog.PropertiesDistinct) (entity : String) (visited : List String) :
    catalog.Expanded entity visited (catalog.expandFrom entity visited).1
      (catalog.expandFrom entity visited).2.val := by
  -- Below an entity the induction is on the relations that are left: they are distinct, and the
  -- map that was built so far has none of them.
  induction entity, visited using expandFrom.induct catalog _
    (fun relations before visited =>
      (relations.map Relation.property).Nodup →
      (∀ property ∈ relations.map Relation.property, before.get? property = none) →
      catalog.ExpandedBelow relations before visited
        (catalog.expandRelations relations before visited).1
        (catalog.expandRelations relations before visited).2.val) with
  | case1 entity visited hseen =>
      rw [expandFrom, dif_pos hseen]
      exact .again hseen
  | case2 entity visited hnew hentity =>
      have hrelations : catalog.relations entity = [] := by
        rw [relations, hentity]
        rfl
      obtain ⟨hmap, hafter⟩ := catalog.expandFrom_of_notMem hnew
      rw [hmap, hafter, hrelations, expandRelations]
      exact .enter hnew (hrelations ▸ .nil)
  | case3 entity visited hnew definition hentity map after hbetween heq ih =>
      have hrelations : catalog.relations entity = definition.relations := by
        rw [relations, hentity]
        rfl
      obtain ⟨hmap, hafter⟩ := catalog.expandFrom_of_notMem hnew
      rw [← hrelations] at ih
      rw [hmap, hafter]
      exact .enter hnew (ih (hdistinct entity) (fun property _ => rfl))
  | case4 before visited _ _ =>
      rw [expandRelations]
      exact .nil
  | case5 relation rest before visited nested between hbetween hnested map after hafter hrest
      ihnested ihrest hnodup hnone =>
      have hfirst := hnone relation.property List.mem_cons_self
      have hkeep : ∀ property ∈ rest.map Relation.property,
          (before.insert relation.property nested).get? property = none := by
        intro property hmem
        have hne : property ≠ relation.property := by
          rintro rfl
          exact (List.nodup_cons.mp hnodup).1 hmem
        rw [RelationMap.get?_insert_of_ne hne]
        exact hnone property (List.mem_cons_of_mem _ hmem)
      have hlater := ihrest (List.nodup_cons.mp hnodup).2 hkeep
      rw [hnested] at ihnested
      rw [hrest] at hlater
      rw [expandRelations, hnested]
      simp only [hrest]
      exact .cons hnodup hfirst ihnested hlater

/-! ## The map of a root entity -/

variable {catalog : Catalog} {root label : String}

theorem PropertiesDistinct.exists_expanded (hdistinct : catalog.PropertiesDistinct)
    (root : String) : ∃ after, catalog.Expanded root [] (catalog.relationMap root) after :=
  ⟨_, hdistinct.expanded_expandFrom root []⟩

theorem PropertiesDistinct.charted_relationMap (hdistinct : catalog.PropertiesDistinct)
    (root : String) : catalog.Charted root (catalog.relationMap root) := by
  obtain ⟨after, hexpanded⟩ := hdistinct.exists_expanded root
  exact hexpanded.charted

theorem PropertiesDistinct.firstVisits_relationMap (hdistinct : catalog.PropertiesDistinct)
    (root : String) :
    catalog.FirstVisits [] (catalog.visits root (catalog.relationMap root)) := by
  obtain ⟨after, hexpanded⟩ := hdistinct.exists_expanded root
  exact hexpanded.walk.firstVisits

/-- From the first position of an entity the walk goes on to all targets of its relations. -/
theorem PropertiesDistinct.target_mem_visits (hdistinct : catalog.PropertiesDistinct)
    {map : RelationMap} (hfirst : catalog.FirstVisits [] (catalog.visits root map))
    {owner : String} (hmem : owner ∈ (catalog.visits root map).map Visit.entity)
    {relation : Relation} (hdeclared : relation ∈ catalog.relations owner) :
    relation.target ∈ (catalog.visits root map).map Visit.entity := by
  obtain ⟨first, others, hfilter, hall, -⟩ := hfirst.exists_first List.not_mem_nil hmem
  have hvisit := Visit.of_filter_eq_cons hfilter
  obtain ⟨path, entity, nested⟩ := first
  obtain ⟨hvisit, rfl⟩ := hvisit
  obtain ⟨hat, hfollow⟩ := hdistinct.mem_visits_iff.mp hvisit
  have hproperty : relation.property ∈ nested.properties :=
    hall.mem_iff.mpr (List.mem_map.mpr ⟨relation, hdeclared, rfl⟩)
  obtain ⟨inner, hget⟩ := Option.isSome_iff_exists.mp (RelationMap.isSome_get?_iff.mpr hproperty)
  refine List.mem_map.mpr ⟨⟨path ++ [relation.property], relation.target, inner⟩, ?_, rfl⟩
  rw [hdistinct.mem_visits_iff, RelationMap.at?_append, hat, follow?_append, hfollow]
  simp [RelationMap.at?, hget, follow?, hdistinct.relation?_eq hdeclared]

theorem PropertiesDistinct.reachable_iff (hdistinct : catalog.PropertiesDistinct)
    {map : RelationMap} (hfirst : catalog.FirstVisits [] (catalog.visits root map)) :
    catalog.Reachable root label ↔ label ∈ (catalog.visits root map).map Visit.entity := by
  constructor
  · intro hreachable
    induction hreachable with
    | root => simp [visits_eq]
    | relation _ hdeclared ih => exact hdistinct.target_mem_visits hfirst ih hdeclared
  · intro hmem
    obtain ⟨⟨path, entity, nested⟩, hvisit, rfl⟩ := List.mem_map.mp hmem
    exact Reachable.root.follow? (hdistinct.mem_visits_iff.mp hvisit).2

/-- The relation map is the expansion of the catalog's graph at first visits.  Its positions are
paths of declared relations.  In depth-first order of declaration the first position of each
reachable entity has exactly the entity's properties, and its other positions have none, so that
every reachable entity counts once in the number of keys. -/
theorem relationMap_expands_first_visits (catalog : Catalog)
    (hdistinct : catalog.PropertiesDistinct) (root : String) :
    (∀ path nested, (catalog.relationMap root).at? path = some nested →
      ∃ label, catalog.follow? root path = some label) ∧
    (∀ path label nested,
      ⟨path, label, nested⟩ ∈ catalog.visits root (catalog.relationMap root) ↔
        (catalog.relationMap root).at? path = some nested ∧
          catalog.follow? root path = some label) ∧
    ((catalog.visits root (catalog.relationMap root)).map Visit.path).Nodup ∧
    (∀ label, catalog.Reachable root label ↔
      ∃ first others,
        (catalog.visits root (catalog.relationMap root)).filter
            (fun visit => visit.entity = label) = first :: others ∧
          first.map.properties.Perm ((catalog.relations label).map Relation.property) ∧
          ∀ other ∈ others, other.map = .empty) ∧
    ∃ entities : List String, entities.Nodup ∧
      (∀ label, label ∈ entities ↔ catalog.Reachable root label) ∧
      (catalog.relationMap root).keyCount = catalog.declaredTotal entities := by
  obtain ⟨after, hexpanded⟩ := hdistinct.exists_expanded root
  generalize catalog.relationMap root = map at hexpanded
  have hfirst := hexpanded.walk.firstVisits
  refine ⟨?_, ?_, hdistinct.nodup_visits root map, ?_, ?_⟩
  · intro path nested hat
    obtain ⟨label, hfollow, -⟩ := hexpanded.charted.exists_follow? hdistinct hat
    exact ⟨label, hfollow⟩
  · intro path label nested
    exact hdistinct.mem_visits_iff
  · intro label
    rw [hdistinct.reachable_iff hfirst]
    constructor
    · exact hfirst.exists_first List.not_mem_nil
    · rintro ⟨first, others, hfilter, -, -⟩
      obtain ⟨hvisit, hentity⟩ := Visit.of_filter_eq_cons hfilter
      exact List.mem_map.mpr ⟨first, hvisit, hentity⟩
  · obtain ⟨entities, hnodup, hmem, htotal⟩ := hfirst.keyTotal_eq
    refine ⟨entities, hnodup, ?_, hexpanded.keyCount.trans htotal⟩
    intro label
    rw [hmem, hdistinct.reachable_iff hfirst]
    exact and_iff_left List.not_mem_nil

/-- Posts and their comments, both written by users who have posts. -/
def ofBlog : Catalog :=
  ⟨[
    ("User", ⟨some "users", [⟨"posts", "Post", .oneToMany, none, none⟩]⟩),
    ("Post", ⟨some "posts", [
      ⟨"author", "User", .manyToOne, none, none⟩,
      ⟨"comments", "Comment", .oneToMany, none, none⟩]⟩),
    ("Comment", ⟨some "comments", [
      ⟨"post", "Post", .manyToOne, none, none⟩,
      ⟨"writer", "User", .manyToOne, some "written_by", none⟩]⟩)]⟩

theorem relationMap_expands_first_visits_of_blog :
    ofBlog.PropertiesDistinct ∧
      (ofBlog.relationMap "Post").at? ["comments", "writer"] = some .empty ∧
      ofBlog.follow? "Post" ["comments", "writer"] = some "User" ∧
      ∃ entities : List String, entities.Nodup ∧
        (∀ label, label ∈ entities ↔ ofBlog.Reachable "Post" label) ∧
        ofBlog.declaredTotal entities = 5 := by
  have hdistinct : ofBlog.PropertiesDistinct :=
    propertiesDistinct_of_entities (by decide)
  have hmap : ofBlog.relationMap "Post" = .ofEntries [
      ("author", .ofEntries [("posts", .ofEntries [])]),
      ("comments", .ofEntries [("post", .ofEntries []), ("writer", .ofEntries [])])] := by
    cbv
  obtain ⟨-, -, -, -, entities, hnodup, hmem, hcount⟩ :=
    relationMap_expands_first_visits ofBlog hdistinct "Post"
  rw [hmap] at hcount
  exact ⟨hdistinct, by rw [hmap]; rfl, rfl, entities, hnodup, hmem, hcount.symm⟩

end Catalog

end FilterQuery
