import FilterQuery.Proofs.BuilderCalls
import FilterQuery.Proofs.RelationExpansion

/-!
# The relations that a filter mentions

A filter mentions a relation at a position of the relation map: the relations on the way to it are
the path of the position, and combinators do not move it.  The last relation of the path gives the
alias of the position, and the declared relations along the path its entity.  The steps of the
planner are the mentioned relations, written as texts.
-/

namespace FilterQuery

/-- The alias of the position at the end of a path. -/
def aliasAt : String → List String → String
  | tableAlias, [] => tableAlias
  | _, key :: path => aliasAt key path

@[simp] theorem aliasAt_append_singleton (tableAlias key : String) (path : List String) :
    aliasAt tableAlias (path ++ [key]) = key := by
  induction path generalizing tableAlias with
  | nil => rfl
  | cons first path ih => exact ih first

/-- The filter has a relation `key` of the map at the end of the path. -/
inductive Filter.Mentions : RelationMap → Filter → List String → String → Prop
  | here {relations : RelationMap} {filter : Filter} {key : String} {value : FilterValue}
      (hentry : (key, value) ∈ filter.entries)
      (hvalue : ∀ combinator branches, value ≠ .combinator combinator branches)
      (hrelation : relations.contains key = true) : Mentions relations filter [] key
  | inBranch {relations : RelationMap} {filter branch : Filter} {name key : String}
      {combinator : Combinator} {branches : List Filter} {path : List String}
      (hentry : (name, .combinator combinator branches) ∈ filter.entries)
      (hbranch : branch ∈ branches) (hmention : Mentions relations branch path key) :
      Mentions relations filter path key
  | inRelation {relations inner : RelationMap} {filter nested : Filter} {relation key : String}
      {members : List (String × Json)} {path : List String}
      (hentry : (relation, .mapping nested members) ∈ filter.entries)
      (hrelation : relations.get? relation = some inner)
      (hmention : Mentions inner nested path key) :
      Mentions relations filter (relation :: path) key

/-- A mentioned relation is a key of the map at its position. -/
theorem Filter.Mentions.at? {relations : RelationMap} {filter : Filter} {path : List String}
    {key : String} (hmention : filter.Mentions relations path key) :
    ∃ map nested, relations.at? path = some map ∧ map.get? key = some nested := by
  induction hmention with
  | here _ _ hrelation =>
      obtain ⟨nested, hget⟩ := Option.isSome_iff_exists.mp hrelation
      exact ⟨_, nested, rfl, hget⟩
  | inBranch _ _ _ ih => exact ih
  | inRelation _ hrelation _ ih =>
      obtain ⟨map, nested, hat, hget⟩ := ih
      exact ⟨map, nested, by rw [RelationMap.at?, hrelation]; exact hat, hget⟩

/-! ## Steps are mentions -/

def mentionStep (tableAlias : String) (path : List String) (key : String) : String × String :=
  (aliasAt tableAlias path ++ "." ++ key, key)

theorem mentionStep_inj {tableAlias : String} {path other : List String} {key name : String} :
    mentionStep tableAlias path key = mentionStep tableAlias other name ↔
      aliasAt tableAlias path = aliasAt tableAlias other ∧ key = name := by
  rw [mentionStep, mentionStep, Prod.mk.injEq]
  constructor
  · rintro ⟨hpath, rfl⟩
    simpa using hpath
  · rintro ⟨hparent, rfl⟩
    exact ⟨by rw [hparent], rfl⟩

mutual

theorem Filter.exists_mention (tableAlias : String) (relations : RelationMap) :
    (filter : Filter) → ∀ step ∈ filter.joinSteps tableAlias relations,
      ∃ path key, filter.Mentions relations path key ∧ step = mentionStep tableAlias path key
  | .ofEntries entries => by
      intro step hstep
      rw [Filter.joinSteps] at hstep
      exact entries_exists_mention tableAlias relations entries step hstep
        (.ofEntries entries) (List.Subset.refl entries)
termination_by structural filter => filter

theorem FilterValue.exists_mention (tableAlias : String) (relations : RelationMap)
    (key : String) :
    (value : FilterValue) → ∀ step ∈ value.joinSteps tableAlias relations key,
      ∀ filter : Filter, (key, value) ∈ filter.entries →
        ∃ path name, filter.Mentions relations path name ∧
          step = mentionStep tableAlias path name
  | .combinator combinator branches => by
      intro step hstep filter hentry
      rw [FilterValue.joinSteps] at hstep
      obtain ⟨branch, hbranch, path, name, hmention, heq⟩ :=
        branches_exists_mention tableAlias relations branches step hstep
      exact ⟨path, name, .inBranch hentry hbranch hmention, heq⟩
  | .mapping nested members => by
      intro step hstep filter hentry
      rw [FilterValue.joinSteps] at hstep
      cases hget : relations.get? key with
      | none =>
          rw [hget] at hstep
          exact absurd hstep List.not_mem_nil
      | some inner =>
          rw [hget] at hstep
          rcases List.mem_cons.mp hstep with heq | hbelow
          · have hrelation : relations.contains key = true := Option.isSome_of_eq_some hget
            exact ⟨[], key, .here hentry (by simp) hrelation, heq⟩
          · obtain ⟨path, name, hmention, heq⟩ := nested.exists_mention key inner step hbelow
            exact ⟨key :: path, name, .inRelation hentry hget hmention, heq⟩
  | .sequence items => by
      intro step hstep filter hentry
      rw [FilterValue.joinSteps] at hstep
      split at hstep
      next hrelation =>
        exact ⟨[], key, .here hentry (by simp) hrelation, List.mem_singleton.mp hstep⟩
      next => exact absurd hstep List.not_mem_nil
  | .scalar value => by
      intro step hstep filter hentry
      rw [FilterValue.joinSteps] at hstep
      split at hstep
      next hrelation =>
        exact ⟨[], key, .here hentry (by simp) hrelation, List.mem_singleton.mp hstep⟩
      next => exact absurd hstep List.not_mem_nil
termination_by structural value => value

theorem entries_exists_mention (tableAlias : String) (relations : RelationMap) :
    (entries : List (String × FilterValue)) →
      ∀ step ∈ entriesJoinSteps tableAlias relations entries,
      ∀ filter : Filter, entries ⊆ filter.entries →
        ∃ path name, filter.Mentions relations path name ∧
          step = mentionStep tableAlias path name
  | [] => by simp [entriesJoinSteps]
  | (key, value) :: rest => by
      intro step hstep filter hsubset
      rw [entriesJoinSteps] at hstep
      obtain ⟨hentry, hrest⟩ := List.cons_subset.mp hsubset
      rcases List.mem_append.mp hstep with hfirst | hlater
      · exact value.exists_mention tableAlias relations key step hfirst filter hentry
      · exact entries_exists_mention tableAlias relations rest step hlater filter hrest
termination_by structural entries => entries

theorem branches_exists_mention (tableAlias : String) (relations : RelationMap) :
    (branches : List Filter) → ∀ step ∈ branchesJoinSteps tableAlias relations branches,
      ∃ branch ∈ branches, ∃ path name, branch.Mentions relations path name ∧
        step = mentionStep tableAlias path name
  | [] => by simp [branchesJoinSteps]
  | branch :: rest => by
      intro step hstep
      rw [branchesJoinSteps] at hstep
      rcases List.mem_append.mp hstep with hfirst | hlater
      · exact ⟨branch, List.mem_cons_self, branch.exists_mention tableAlias relations step hfirst⟩
      · obtain ⟨other, hmem, hmention⟩ :=
          branches_exists_mention tableAlias relations rest step hlater
        exact ⟨other, List.mem_cons_of_mem _ hmem, hmention⟩
termination_by structural branches => branches

end

theorem mem_entriesJoinSteps {tableAlias : String} {relations : RelationMap} {key : String}
    {value : FilterValue} {entries : List (String × FilterValue)} {step : String × String}
    (hentry : (key, value) ∈ entries) (hstep : step ∈ value.joinSteps tableAlias relations key) :
    step ∈ entriesJoinSteps tableAlias relations entries := by
  induction entries with
  | nil => exact absurd hentry List.not_mem_nil
  | cons entry rest ih =>
      rw [entriesJoinSteps, List.mem_append]
      rcases List.mem_cons.mp hentry with rfl | hmem
      · exact .inl hstep
      · exact .inr (ih hmem)

theorem mem_branchesJoinSteps {tableAlias : String} {relations : RelationMap} {branch : Filter}
    {branches : List Filter} {step : String × String} (hbranch : branch ∈ branches)
    (hstep : step ∈ branch.joinSteps tableAlias relations) :
    step ∈ branchesJoinSteps tableAlias relations branches := by
  induction branches with
  | nil => exact absurd hbranch List.not_mem_nil
  | cons first rest ih =>
      rw [branchesJoinSteps, List.mem_append]
      rcases List.mem_cons.mp hbranch with rfl | hmem
      · exact .inl hstep
      · exact .inr (ih hmem)

theorem Filter.mem_joinSteps_of_entry {tableAlias : String} {relations : RelationMap}
    {filter : Filter} {key : String} {value : FilterValue} {step : String × String}
    (hentry : (key, value) ∈ filter.entries)
    (hstep : step ∈ value.joinSteps tableAlias relations key) :
    step ∈ filter.joinSteps tableAlias relations := by
  obtain ⟨entries⟩ := filter
  rw [Filter.joinSteps]
  exact mem_entriesJoinSteps hentry hstep

theorem Filter.Mentions.mem_joinSteps {relations : RelationMap} {filter : Filter}
    {path : List String} {key : String} (hmention : filter.Mentions relations path key)
    (tableAlias : String) :
    mentionStep tableAlias path key ∈ filter.joinSteps tableAlias relations := by
  induction hmention generalizing tableAlias with
  | @here relations filter key value hentry hvalue hrelation =>
      refine Filter.mem_joinSteps_of_entry hentry ?_
      cases value with
      | combinator combinator branches => exact absurd rfl (hvalue combinator branches)
      | sequence items =>
          rw [FilterValue.joinSteps, if_pos hrelation]
          exact List.mem_singleton.mpr rfl
      | scalar value =>
          rw [FilterValue.joinSteps, if_pos hrelation]
          exact List.mem_singleton.mpr rfl
      | mapping nested members =>
          obtain ⟨inner, hget⟩ := Option.isSome_iff_exists.mp hrelation
          rw [FilterValue.joinSteps, hget]
          exact List.mem_cons_self
  | inBranch hentry hbranch _ ih =>
      refine Filter.mem_joinSteps_of_entry hentry ?_
      rw [FilterValue.joinSteps]
      exact mem_branchesJoinSteps hbranch (ih tableAlias)
  | @inRelation relations inner filter nested relation key members path hentry hrelation _ ih =>
      refine Filter.mem_joinSteps_of_entry hentry ?_
      rw [FilterValue.joinSteps, hrelation]
      exact List.mem_cons_of_mem _ (ih relation)

theorem Filter.mem_joinSteps_iff {tableAlias : String} {relations : RelationMap}
    {filter : Filter} {step : String × String} :
    step ∈ filter.joinSteps tableAlias relations ↔
      ∃ path key, filter.Mentions relations path key ∧ step = mentionStep tableAlias path key := by
  constructor
  · exact filter.exists_mention tableAlias relations step
  · rintro ⟨path, key, hmention, rfl⟩
    exact hmention.mem_joinSteps tableAlias

end FilterQuery
