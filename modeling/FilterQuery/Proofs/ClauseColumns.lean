import FilterQuery.Filter.Where

/-!
# The columns of a clause

A clause names columns only by what it was given: the qualifier of a column is the alias of the
filter or one of its keys, and the name is one of its keys.
-/

namespace FilterQuery

mutual

def Condition.columns : Condition → List Column
  | .compare column _ _ => [column]
  | .group _ clauses => clausesColumns clauses
termination_by structural condition => condition

def Clause.columns : List Condition → List Column
  | [] => []
  | condition :: rest => condition.columns ++ Clause.columns rest
termination_by structural clause => clause

def clausesColumns : List (List Condition) → List Column
  | [] => []
  | clause :: rest => Clause.columns clause ++ clausesColumns rest
termination_by structural clauses => clauses

end

theorem Clause.columns_append (clause other : Clause) :
    Clause.columns (clause ++ other) = Clause.columns clause ++ Clause.columns other := by
  induction clause with
  | nil => rw [List.nil_append, Clause.columns, List.nil_append]
  | cons condition rest ih =>
      rw [List.cons_append, Clause.columns, Clause.columns, ih, List.append_assoc]

mutual

/-- The keys of a filter at every level. -/
def Filter.keys : Filter → List String
  | .ofEntries entries => entriesKeys entries
termination_by structural filter => filter

def FilterValue.keys : FilterValue → List String
  | .combinator _ branches => branchesKeys branches
  | .mapping nested _ => nested.keys
  | .sequence _ | .scalar _ => []
termination_by structural value => value

def entriesKeys : List (String × FilterValue) → List String
  | [] => []
  | (key, value) :: rest => key :: (value.keys ++ entriesKeys rest)
termination_by structural entries => entries

def branchesKeys : List Filter → List String
  | [] => []
  | branch :: rest => branch.keys ++ branchesKeys rest
termination_by structural branches => branches

end

/-! ## Columns come from the keys -/

/-- The columns belong to `tableAlias` or to one of the names, and are called by the names. -/
def ColumnsAmong (tableAlias : String) (names : List String) (columns : List Column) : Prop :=
  ∀ column ∈ columns,
    (column.qualifier = tableAlias ∨ column.qualifier ∈ names) ∧ column.name ∈ names

namespace ColumnsAmong

variable {tableAlias : String} {names more : List String} {columns others : List Column}

theorem nil : ColumnsAmong tableAlias names [] := by
  intro column hmem
  exact absurd hmem List.not_mem_nil

theorem mono (hamong : ColumnsAmong tableAlias names columns) (hsubset : names ⊆ more) :
    ColumnsAmong tableAlias more columns := by
  intro column hmem
  obtain ⟨hqualifier, hname⟩ := hamong column hmem
  exact ⟨hqualifier.imp_right (@hsubset _), hsubset hname⟩

theorem append (hamong : ColumnsAmong tableAlias names columns)
    (hothers : ColumnsAmong tableAlias names others) :
    ColumnsAmong tableAlias names (columns ++ others) := by
  intro column hmem
  rcases List.mem_append.mp hmem with hfirst | hsecond
  · exact hamong column hfirst
  · exact hothers column hsecond

/-- Below a relation the key takes the place of the alias. -/
theorem ofRelation {key : String} (hamong : ColumnsAmong key names columns) (hkey : key ∈ names) :
    ColumnsAmong tableAlias names columns := by
  intro column hmem
  obtain ⟨hqualifier, hname⟩ := hamong column hmem
  refine ⟨.inr ?_, hname⟩
  rcases hqualifier with heq | hqualifier
  · rw [heq]
    exact hkey
  · exact hqualifier

theorem singleton {key : String} (hkey : key ∈ names) :
    ColumnsAmong tableAlias names [⟨tableAlias, key⟩] := by
  intro column hmem
  rw [List.mem_singleton.mp hmem]
  exact ⟨.inl rfl, hkey⟩

end ColumnsAmong

theorem compileOperators_columns (tableAlias key : String) (members : List (String × Json))
    (next : Nat) :
    ColumnsAmong tableAlias [key]
      (Clause.columns (compileOperators ⟨tableAlias, key⟩ members next).clause) := by
  induction members generalizing next with
  | nil => exact .nil
  | cons member rest ih =>
      obtain ⟨name, operand⟩ := member
      rw [compileOperators]
      cases Operator.ofName? name with
      | none => exact ih next
      | some operator =>
          simp only [Compiled.followedBy, Compiled.comparison, Clause.columns_append,
            Clause.columns, Condition.columns, List.append_nil]
          exact .append (.singleton List.mem_cons_self) (ih _)

mutual

theorem Filter.compile_columns (tableAlias : String) (relations : RelationMap) :
    (filter : Filter) → (next : Nat) →
      ColumnsAmong tableAlias filter.keys
        (Clause.columns (filter.compile tableAlias relations next).clause)
  | .ofEntries entries, next => by
      rw [Filter.compile, Filter.keys]
      exact compileEntries_columns tableAlias relations entries next
termination_by structural filter => filter

theorem FilterValue.compile_columns (tableAlias : String) (relations : RelationMap)
    (key : String) :
    (value : FilterValue) → (next : Nat) →
      ColumnsAmong tableAlias (key :: value.keys)
        (Clause.columns (value.compile tableAlias relations key next).clause)
  | .combinator combinator branches, next => by
      have hbranches := compileBranches_columns tableAlias relations branches next
      rw [FilterValue.compile, FilterValue.keys, Compiled.combined]
      cases hclauses : (compileBranches tableAlias relations branches next).clauses with
      | nil => exact .nil
      | cons clause rest =>
          rw [hclauses] at hbranches
          simp only [List.isEmpty_cons, Bool.false_eq_true, if_false, Clause.columns,
            Condition.columns, List.append_nil]
          exact hbranches.mono (List.subset_cons_self key _)
  | .mapping nested members, next => by
      rw [FilterValue.compile, FilterValue.keys]
      cases relations.get? key with
      | none =>
          exact (compileOperators_columns tableAlias key members next).mono (by simp)
      | some inner =>
          have hnested := nested.compile_columns key inner next
          simp only [Compiled.enclosed]
          cases hclause : (nested.compile key inner next).clause with
          | nil => exact .nil
          | cons condition rest =>
              rw [hclause] at hnested
              simp only [List.isEmpty_cons, Bool.false_eq_true, if_false, Clause.columns,
                Condition.columns, clausesColumns, List.append_nil]
              exact (hnested.mono (List.subset_cons_self key _)).ofRelation List.mem_cons_self
  | .sequence items, next => by
      rw [FilterValue.compile]
      cases relations.contains key with
      | true => exact .nil
      | false => exact .singleton List.mem_cons_self
  | .scalar value, next => by
      rw [FilterValue.compile]
      cases relations.contains key with
      | true => exact .nil
      | false => exact .singleton List.mem_cons_self
termination_by structural value => value

theorem compileEntries_columns (tableAlias : String) (relations : RelationMap) :
    (entries : List (String × FilterValue)) → (next : Nat) →
      ColumnsAmong tableAlias (entriesKeys entries)
        (Clause.columns (compileEntries tableAlias relations entries next).clause)
  | [], next => .nil
  | (key, value) :: rest, next => by
      have hvalue := value.compile_columns tableAlias relations key next
      have hrest := compileEntries_columns tableAlias relations rest
        (value.compile tableAlias relations key next).next
      rw [compileEntries, entriesKeys]
      simp only [Compiled.followedBy, Clause.columns_append]
      refine .append (hvalue.mono ?_) (hrest.mono ?_)
      · exact List.cons_subset_cons key (List.subset_append_left _ _)
      · exact List.subset_cons_of_subset key (List.subset_append_right _ _)
termination_by structural entries => entries

theorem compileBranches_columns (tableAlias : String) (relations : RelationMap) :
    (branches : List Filter) → (next : Nat) →
      ColumnsAmong tableAlias (branchesKeys branches)
        (clausesColumns (compileBranches tableAlias relations branches next).clauses)
  | [], next => .nil
  | branch :: rest, next => by
      have hbranch := branch.compile_columns tableAlias relations next
      have hrest := compileBranches_columns tableAlias relations rest
        (branch.compile tableAlias relations next).next
      have hothers := hrest.mono (List.subset_append_right branch.keys (branchesKeys rest))
      rw [compileBranches, branchesKeys]
      cases hclause : (branch.compile tableAlias relations next).clause with
      | nil => exact hothers
      | cons condition conditions =>
          rw [hclause] at hbranch
          exact .append (hbranch.mono (List.subset_append_left _ _)) hothers
termination_by structural branches => branches

end

end FilterQuery
