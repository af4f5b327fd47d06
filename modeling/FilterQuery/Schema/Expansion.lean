import FilterQuery.Schema.Catalog
import FilterQuery.Schema.RelationMap

/-!
# The relation map of an entity

The relations of an entity are followed depth first in the order of their declaration.  One list of
visited entities serves the whole walk, so an entity that was entered before has an empty map where
it is met again, and the walk ends on every catalog.
-/

namespace FilterQuery.Catalog

def unvisited (catalog : Catalog) (visited : List String) : Nat :=
  catalog.entities.countP fun entry => entry.1 ∉ visited

theorem unvisited_le_of_subset (catalog : Catalog) {before after : List String}
    (hsubset : before ⊆ after) : catalog.unvisited after ≤ catalog.unvisited before := by
  apply List.countP_mono_left
  intro entry _ hentry
  simp only [decide_eq_true_eq] at *
  exact fun hmem => hentry (hsubset hmem)

theorem mem_entities_of_entity? {catalog : Catalog} {entity : String} {definition : Entity}
    (hentity : catalog.entity? entity = some definition) :
    (entity, definition) ∈ catalog.entities := by
  unfold entity? at hentity
  generalize catalog.entities = entries at *
  induction entries with
  | nil => simp [Named.get?] at hentity
  | cons entry rest ih =>
    obtain ⟨name, known⟩ := entry
    simp only [Named.get?] at hentity
    split at hentity
    · next heq =>
      rw [heq, Option.some.inj hentity]
      exact List.mem_cons_self
    · exact List.mem_cons_of_mem _ (ih hentity)

theorem unvisited_cons_lt {catalog : Catalog} {entity : String} {definition : Entity}
    {visited : List String} (hnew : entity ∉ visited)
    (hentity : catalog.entity? entity = some definition) :
    catalog.unvisited (entity :: visited) < catalog.unvisited visited := by
  obtain ⟨before, after, hsplit⟩ :=
    List.append_of_mem (mem_entities_of_entity? hentity)
  have hbefore := unvisited_le_of_subset ⟨before⟩ (List.subset_cons_self entity visited)
  have hafter := unvisited_le_of_subset ⟨after⟩ (List.subset_cons_self entity visited)
  simp only [unvisited] at hbefore hafter
  simp only [unvisited, hsplit, List.countP_append, List.countP_cons]
  simp only [List.mem_cons_self, not_true_eq_false, decide_false, hnew, not_false_eq_true,
    decide_true, if_true]
  simp only [Bool.false_eq_true, if_false]
  omega

mutual

/-- The relation map of an entity, and the visited entities after the walk through it. -/
def expandFrom (catalog : Catalog) (entity : String) (visited : List String) :
    RelationMap × { after : List String // visited ⊆ after } :=
  if _ : entity ∈ visited then (.empty, ⟨visited, List.Subset.refl _⟩)
  else
    match _ : catalog.entity? entity with
    | none => (.empty, ⟨entity :: visited, List.subset_cons_self _ _⟩)
    | some definition =>
        let (map, ⟨after, hafter⟩) :=
          catalog.expandRelations definition.relations .empty (entity :: visited)
        (map, ⟨after, fun _ hmem => hafter (List.mem_cons_of_mem _ hmem)⟩)
termination_by (catalog.unvisited visited, 0)
decreasing_by exact Prod.Lex.left _ _ (unvisited_cons_lt ‹_› ‹_›)

def expandRelations (catalog : Catalog) :
    List Relation → RelationMap → (visited : List String) →
      RelationMap × { after : List String // visited ⊆ after }
  | [], map, visited => (map, ⟨visited, List.Subset.refl _⟩)
  | relation :: rest, map, visited =>
      let (nested, ⟨between, hbetween⟩) := catalog.expandFrom relation.target visited
      let (map, ⟨after, hafter⟩) :=
        catalog.expandRelations rest (map.insert relation.property nested) between
      (map, ⟨after, fun _ hmem => hafter (hbetween hmem)⟩)
termination_by relations _ visited => (catalog.unvisited visited, relations.length)
decreasing_by
  · exact Prod.Lex.right _ (by simp)
  · have hle := catalog.unvisited_le_of_subset hbetween
    rcases Nat.lt_or_eq_of_le hle with hlt | heq
    · exact Prod.Lex.left _ _ hlt
    · rw [heq]
      exact Prod.Lex.right _ (by simp)

end

/-- A new entity leads through all of its relations; one that is not defined has none. -/
theorem expandFrom_of_notMem (catalog : Catalog) {entity : String} {visited : List String}
    (hnew : entity ∉ visited) :
    let below := catalog.expandRelations (catalog.relations entity) .empty (entity :: visited)
    (catalog.expandFrom entity visited).1 = below.1 ∧
      (catalog.expandFrom entity visited).2.val = below.2.val := by
  rw [expandFrom, dif_neg hnew]
  split
  next hentity =>
    have hrelations : catalog.relations entity = [] := by
      rw [relations, hentity]
      rfl
    rw [hrelations, expandRelations]
    exact ⟨rfl, rfl⟩
  next definition hentity =>
    have hrelations : catalog.relations entity = definition.relations := by
      rw [relations, hentity]
      rfl
    rw [hrelations]
    exact ⟨rfl, rfl⟩

def relationMap (catalog : Catalog) (entity : String) : RelationMap :=
  (catalog.expandFrom entity []).1

end FilterQuery.Catalog
