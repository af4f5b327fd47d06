import FilterQuery.Proofs.BuilderCalls
import FilterQuery.Proofs.ClauseColumns

/-!
# Aliases in scope

The joins and the clause of a filter are made by two walks that know nothing of each other.  Both
take an alias from the filter: the root alias, and below a relation the relation's name.  This file
shows that the aliases of the clause are declared by the joins, and that each join starts from an
alias that is declared before it.
-/

namespace FilterQuery

/-! ## Steps that are new -/

variable {step : String × String} {registered steps : List (String × String)}

theorem mem_newSteps :
    step ∈ newSteps registered steps ↔ step ∈ steps ∧ step ∉ registered := by
  induction steps generalizing registered with
  | nil => simp [newSteps]
  | cons first rest ih =>
      rw [newSteps]
      by_cases hfirst : first ∈ registered
      · rw [if_pos (List.contains_iff_mem.mpr hfirst), ih, List.mem_cons]
        constructor
        · rintro ⟨hmem, hnew⟩
          exact ⟨.inr hmem, hnew⟩
        · rintro ⟨rfl | hmem, hnew⟩
          · exact absurd hfirst hnew
          · exact ⟨hmem, hnew⟩
      · rw [if_neg (fun hcontains => hfirst (List.contains_iff_mem.mp hcontains)), List.mem_cons,
          ih, List.mem_append, List.mem_singleton, List.mem_cons]
        by_cases heq : step = first
        · simp [heq, hfirst]
        · simp [heq]

theorem nodup_newSteps (registered steps : List (String × String)) :
    (newSteps registered steps).Nodup := by
  induction steps generalizing registered with
  | nil => simp [newSteps]
  | cons first rest ih =>
      rw [newSteps]
      split
      · exact ih registered
      · rw [List.nodup_cons]
        refine ⟨?_, ih _⟩
        intro hmem
        have hnew := (mem_newSteps.mp hmem).2
        exact hnew (List.mem_append_right _ List.mem_cons_self)

/-- New steps keep the order of their first mentions. -/
theorem pairwise_newSteps (registered steps : List (String × String)) :
    (newSteps registered steps).Pairwise
      fun step later => steps.idxOf step < steps.idxOf later := by
  induction steps generalizing registered with
  | nil => exact List.Pairwise.nil
  | cons first rest ih =>
      have hshift : ∀ step, step ≠ first → (first :: rest).idxOf step = rest.idxOf step + 1 := by
        intro step hne
        rw [List.idxOf_cons, beq_false_of_ne (Ne.symm hne)]
        rfl
      -- Behind `first` every index is one higher, and `first` itself is passed over from there on.
      have hrest : ∀ known, first ∈ known →
          (newSteps known rest).Pairwise fun step later =>
            (first :: rest).idxOf step < (first :: rest).idxOf later := by
        intro known hknown
        refine (ih known).imp_of_mem fun {step later} hstep hlater hlt => ?_
        have hne : ∀ other ∈ newSteps known rest, other ≠ first := by
          rintro other hother rfl
          exact (mem_newSteps.mp hother).2 hknown
        rw [hshift step (hne step hstep), hshift later (hne later hlater)]
        omega
      rw [newSteps]
      by_cases hfirst : first ∈ registered
      · rw [if_pos (List.contains_iff_mem.mpr hfirst)]
        exact hrest registered hfirst
      · rw [if_neg fun hcontains => hfirst (List.contains_iff_mem.mp hcontains)]
        have hknown : first ∈ registered ++ [first] := by simp
        apply List.Pairwise.cons _ (hrest _ hknown)
        intro later hlater
        have hne : later ≠ first := by
          rintro rfl
          exact (mem_newSteps.mp hlater).2 hknown
        rw [List.idxOf_cons_self, hshift later hne]
        omega

/-! ## Joins in scope -/

/-- Each join starts from an alias that is known or declared by a join before it. -/
inductive JoinsInScope : List String → List (String × String) → Prop
  | nil {known : List String} : JoinsInScope known []
  | cons {known : List String} {parent key : String} {rest : List (String × String)}
      (hparent : parent ∈ known) (hrest : JoinsInScope (key :: known) rest) :
      JoinsInScope known ((parent ++ "." ++ key, key) :: rest)

namespace JoinsInScope

variable {known more : List String} {joins others : List (String × String)}

theorem mono (hscope : JoinsInScope known joins) (hsubset : known ⊆ more) :
    JoinsInScope more joins := by
  induction hscope generalizing more with
  | nil => exact .nil
  | cons hparent _ ih => exact .cons (hsubset hparent) (ih (List.cons_subset_cons _ hsubset))

theorem append (hscope : JoinsInScope known joins) (hothers : JoinsInScope known others) :
    JoinsInScope known (joins ++ others) := by
  induction hscope with
  | nil => exact hothers
  | cons hparent _ ih =>
      exact .cons hparent (ih (hothers.mono (List.subset_cons_self _ _)))

theorem single {tableAlias key : String} :
    JoinsInScope [tableAlias] [(tableAlias ++ "." ++ key, key)] :=
  .cons List.mem_cons_self .nil

/-- The joins below a relation follow the relation's own join. -/
theorem ofRelation {tableAlias key : String} (hscope : JoinsInScope [key] joins) :
    JoinsInScope [tableAlias] ((tableAlias ++ "." ++ key, key) :: joins) :=
  .cons List.mem_cons_self (hscope.mono (List.cons_subset_cons _ (List.nil_subset _)))

/-- A join that is passed over has been made, so that its alias is known. -/
theorem newSteps (hscope : JoinsInScope known joins)
    (hregistered : registered.map Prod.snd ⊆ known) :
    JoinsInScope known (newSteps registered joins) := by
  induction hscope generalizing registered with
  | nil => exact .nil
  | @cons known parent key rest hparent _ ih =>
      rw [FilterQuery.newSteps]
      split
      next hcontains =>
        have hkey : key ∈ known :=
          hregistered (List.mem_map.mpr ⟨_, List.contains_iff_mem.mp hcontains, rfl⟩)
        have hrest := ih (List.subset_cons_of_subset key hregistered)
        exact hrest.mono (List.cons_subset.mpr ⟨hkey, List.Subset.refl known⟩)
      next =>
        refine .cons hparent (ih ?_)
        rw [List.map_append, List.append_subset]
        exact ⟨List.subset_cons_of_subset key hregistered, by simp⟩

theorem exists_parent (hscope : JoinsInScope known joins)
    {before after : List (String × String)} {path key : String}
    (hsplit : joins = before ++ (path, key) :: after) :
    ∃ parent, path = parent ++ "." ++ key ∧
      (parent ∈ known ∨ parent ∈ before.map Prod.snd) := by
  induction hscope generalizing before with
  | nil => simp at hsplit
  | @cons known parent first rest hparent _ ih =>
      cases before with
      | nil =>
          rw [List.nil_append, List.cons.injEq, Prod.mk.injEq] at hsplit
          obtain ⟨⟨hpath, hkey⟩, -⟩ := hsplit
          exact ⟨parent, by rw [← hpath, hkey], .inl hparent⟩
      | cons join before =>
          rw [List.cons_append, List.cons.injEq] at hsplit
          obtain ⟨rfl, hrest⟩ := hsplit
          obtain ⟨owner, hpath, hknown⟩ := ih hrest
          refine ⟨owner, hpath, ?_⟩
          rw [List.map_cons, List.mem_cons]
          rcases hknown with hmem | hmem
          · rcases List.mem_cons.mp hmem with heq | hmem
            · exact .inr (.inl heq)
            · exact .inl hmem
          · exact .inr (.inr hmem)

end JoinsInScope

mutual

theorem Filter.joinSteps_inScope (tableAlias : String) (relations : RelationMap) :
    (filter : Filter) → JoinsInScope [tableAlias] (filter.joinSteps tableAlias relations)
  | .ofEntries entries => by
      rw [Filter.joinSteps]
      exact entriesJoinSteps_inScope tableAlias relations entries
termination_by structural filter => filter

theorem FilterValue.joinSteps_inScope (tableAlias : String) (relations : RelationMap)
    (key : String) :
    (value : FilterValue) →
      JoinsInScope [tableAlias] (value.joinSteps tableAlias relations key)
  | .combinator combinator branches => by
      rw [FilterValue.joinSteps]
      exact branchesJoinSteps_inScope tableAlias relations branches
  | .mapping nested members => by
      rw [FilterValue.joinSteps]
      cases relations.get? key with
      | none => exact .nil
      | some inner => exact .ofRelation (nested.joinSteps_inScope key inner)
  | .sequence items => by
      rw [FilterValue.joinSteps]
      cases relations.contains key with
      | true => exact .single
      | false => exact .nil
  | .scalar value => by
      rw [FilterValue.joinSteps]
      cases relations.contains key with
      | true => exact .single
      | false => exact .nil
termination_by structural value => value

theorem entriesJoinSteps_inScope (tableAlias : String) (relations : RelationMap) :
    (entries : List (String × FilterValue)) →
      JoinsInScope [tableAlias] (entriesJoinSteps tableAlias relations entries)
  | [] => .nil
  | (key, value) :: rest => by
      rw [entriesJoinSteps]
      exact (value.joinSteps_inScope tableAlias relations key).append
        (entriesJoinSteps_inScope tableAlias relations rest)
termination_by structural entries => entries

theorem branchesJoinSteps_inScope (tableAlias : String) (relations : RelationMap) :
    (branches : List Filter) →
      JoinsInScope [tableAlias] (branchesJoinSteps tableAlias relations branches)
  | [] => .nil
  | branch :: rest => by
      rw [branchesJoinSteps]
      exact (branch.joinSteps_inScope tableAlias relations).append
        (branchesJoinSteps_inScope tableAlias relations rest)
termination_by structural branches => branches

end

/-! ## Columns in scope -/

/-- The columns belong to `tableAlias` or to the alias of one of the joins. -/
def ColumnsJoined (tableAlias : String) (joins : List (String × String))
    (columns : List Column) : Prop :=
  ∀ column ∈ columns, column.qualifier = tableAlias ∨ column.qualifier ∈ joins.map Prod.snd

namespace ColumnsJoined

variable {tableAlias key : String} {joins more : List (String × String)}
  {columns others : List Column}

theorem nil : ColumnsJoined tableAlias joins [] := by
  intro column hmem
  exact absurd hmem List.not_mem_nil

theorem single : ColumnsJoined tableAlias joins [⟨tableAlias, key⟩] := by
  intro column hmem
  rw [List.mem_singleton.mp hmem]
  exact .inl rfl

theorem mono (hjoined : ColumnsJoined tableAlias joins columns) (hsubset : joins ⊆ more) :
    ColumnsJoined tableAlias more columns := by
  intro column hmem
  exact (hjoined column hmem).imp_right (@List.map_subset _ _ _ _ Prod.snd hsubset _)

theorem append (hjoined : ColumnsJoined tableAlias joins columns)
    (hothers : ColumnsJoined tableAlias more others) :
    ColumnsJoined tableAlias (joins ++ more) (columns ++ others) := by
  intro column hmem
  rcases List.mem_append.mp hmem with hfirst | hsecond
  · exact hjoined.mono (List.subset_append_left _ _) column hfirst
  · exact hothers.mono (List.subset_append_right _ _) column hsecond

/-- The alias of a relation is declared by the relation's join. -/
theorem ofRelation {path : String} (hjoined : ColumnsJoined key joins columns) :
    ColumnsJoined tableAlias ((path, key) :: joins) columns := by
  intro column hmem
  right
  rw [List.map_cons, List.mem_cons]
  exact hjoined column hmem

end ColumnsJoined

theorem compileOperators_joined (tableAlias key : String) (members : List (String × Json))
    (next : Nat) :
    ColumnsJoined tableAlias []
      (Clause.columns (compileOperators ⟨tableAlias, key⟩ members next).clause) := by
  induction members generalizing next with
  | nil => exact .nil
  | cons member rest ih =>
      obtain ⟨name, operand⟩ := member
      rw [compileOperators]
      cases Operator.ofName? name with
      | none => exact ih next
      | some operator =>
          simp only [Compiled.followedBy, Compiled.comparison, Clause.columns_append,
            Clause.columns, Condition.columns, List.append_nil]
          have hfirst : ColumnsJoined tableAlias [] [⟨tableAlias, key⟩] := .single
          exact hfirst.append (ih _)

mutual

theorem Filter.compile_joined (tableAlias : String) (relations : RelationMap) :
    (filter : Filter) → (next : Nat) →
      ColumnsJoined tableAlias (filter.joinSteps tableAlias relations)
        (Clause.columns (filter.compile tableAlias relations next).clause)
  | .ofEntries entries, next => by
      rw [Filter.compile, Filter.joinSteps]
      exact compileEntries_joined tableAlias relations entries next
termination_by structural filter => filter

theorem FilterValue.compile_joined (tableAlias : String) (relations : RelationMap)
    (key : String) :
    (value : FilterValue) → (next : Nat) →
      ColumnsJoined tableAlias (value.joinSteps tableAlias relations key)
        (Clause.columns (value.compile tableAlias relations key next).clause)
  | .combinator combinator branches, next => by
      have hbranches := compileBranches_joined tableAlias relations branches next
      rw [FilterValue.compile, FilterValue.joinSteps, Compiled.combined]
      cases hclauses : (compileBranches tableAlias relations branches next).clauses with
      | nil => exact .nil
      | cons clause rest =>
          rw [hclauses] at hbranches
          simp only [List.isEmpty_cons, Bool.false_eq_true, if_false, Clause.columns,
            Condition.columns, List.append_nil]
          exact hbranches
  | .mapping nested members, next => by
      rw [FilterValue.compile, FilterValue.joinSteps]
      cases relations.get? key with
      | none => exact compileOperators_joined tableAlias key members next
      | some inner =>
          have hnested := nested.compile_joined key inner next
          simp only [Compiled.enclosed]
          cases hclause : (nested.compile key inner next).clause with
          | nil => exact .nil
          | cons condition rest =>
              rw [hclause] at hnested
              simp only [List.isEmpty_cons, Bool.false_eq_true, if_false, Clause.columns,
                Condition.columns, clausesColumns, List.append_nil]
              exact hnested.ofRelation
  | .sequence items, next => by
      rw [FilterValue.compile]
      cases relations.contains key with
      | true => exact .nil
      | false => exact .single
  | .scalar value, next => by
      rw [FilterValue.compile]
      cases relations.contains key with
      | true => exact .nil
      | false => exact .single
termination_by structural value => value

theorem compileEntries_joined (tableAlias : String) (relations : RelationMap) :
    (entries : List (String × FilterValue)) → (next : Nat) →
      ColumnsJoined tableAlias (entriesJoinSteps tableAlias relations entries)
        (Clause.columns (compileEntries tableAlias relations entries next).clause)
  | [], next => .nil
  | (key, value) :: rest, next => by
      rw [compileEntries, entriesJoinSteps]
      simp only [Compiled.followedBy, Clause.columns_append]
      exact (value.compile_joined tableAlias relations key next).append
        (compileEntries_joined tableAlias relations rest _)
termination_by structural entries => entries

theorem compileBranches_joined (tableAlias : String) (relations : RelationMap) :
    (branches : List Filter) → (next : Nat) →
      ColumnsJoined tableAlias (branchesJoinSteps tableAlias relations branches)
        (clausesColumns (compileBranches tableAlias relations branches next).clauses)
  | [], next => .nil
  | branch :: rest, next => by
      have hbranch := branch.compile_joined tableAlias relations next
      have hothers := compileBranches_joined tableAlias relations rest
        (branch.compile tableAlias relations next).next
      rw [compileBranches, branchesJoinSteps]
      cases hclause : (branch.compile tableAlias relations next).clause with
      | nil => exact hothers.mono (List.subset_append_right _ _)
      | cons condition conditions =>
          rw [hclause] at hbranch
          exact hbranch.append hothers
termination_by structural branches => branches

end

/-! ## The joins of a filter declare what its clause needs -/

/-- On every builder the planner makes one and the same list of joins.  Each of them starts from the
root alias or from the alias of a join before it, and no column of the clause has another qualifier
than the root alias and the aliases of the joins. -/
theorem joinRelations_declares_qualifiers (filter : Filter) (tableAlias : String)
    (relations : RelationMap) (first : Nat) :
    ∃ joins : List (String × String),
      (∀ (σ : Type) [QueryBuilder σ] (query : σ),
        filter.joinRelations tableAlias relations query =
          (joins.length, Call.replay (joins.map fun join => .join join.1 join.2) query)) ∧
      (∀ before path key after, joins = before ++ (path, key) :: after →
        ∃ parent, path = parent ++ "." ++ key ∧
          (parent = tableAlias ∨ parent ∈ before.map Prod.snd)) ∧
      ∀ column ∈ Clause.columns (filter.compile tableAlias relations first).clause,
        column.qualifier = tableAlias ∨ column.qualifier ∈ joins.map Prod.snd := by
  refine ⟨newSteps [] (filter.joinSteps tableAlias relations), ?_, ?_, ?_⟩
  · intro σ _ query
    rw [filter.joinRelations_eq_replay, Filter.joinCalls, joinCalls, List.length_map]
  · intro before path key after hsplit
    have hscope : JoinsInScope [tableAlias]
        (newSteps [] (filter.joinSteps tableAlias relations)) :=
      (filter.joinSteps_inScope tableAlias relations).newSteps (List.nil_subset _)
    obtain ⟨parent, hpath, hparent⟩ := hscope.exists_parent hsplit
    exact ⟨parent, hpath, hparent.imp_left List.mem_singleton.mp⟩
  · have hjoined := filter.compile_joined tableAlias relations first
    exact hjoined.mono fun step hmem => mem_newSteps.mpr ⟨hmem, List.not_mem_nil⟩

end FilterQuery
