import FilterQuery.Proofs.ClauseReading

/-!
# The meaning of a filter

When every single comparison has a truth value, a filter has one too, and it can be computed without
a clause: each entry contributes operands, and a filter is the conjunction of its operands.  This
file shows that SQL reads the clause of a filter as exactly these operands, however filters, lists
of operators, relations and combinators are nested.
-/

namespace FilterQuery

/-! ## The operands of a filter -/

def operatorTruths (holds : String → Bool) (column : Column) :
    List (String × Json) → Nat → List Bool
  | [], _ => []
  | (name, _) :: rest, next =>
      match Operator.ofName? name with
      | none => operatorTruths holds column rest next
      | some operator =>
          comparisonTruth holds column operator next ::
            operatorTruths holds column rest (next + operator.arity.size)

mutual

/-- The operands that a filter contributes when its parameters are numbered from a number on. -/
def Filter.truths (holds : String → Bool) (tableAlias : String) (relations : RelationMap) :
    Filter → Nat → List Bool
  | .ofEntries entries, next => entriesTruths holds tableAlias relations entries next
termination_by structural filter => filter

def FilterValue.truths (holds : String → Bool) (tableAlias : String) (relations : RelationMap)
    (key : String) : FilterValue → Nat → List Bool
  | .combinator combinator branches, next =>
      let parts := branchesTruths holds tableAlias relations branches next
      if parts.isEmpty then [] else [combinator.combine parts]
  | .mapping nested members, next =>
      match relations.get? key with
      | some inner =>
          let truths := nested.truths holds key inner next
          if truths.isEmpty then [] else [truths.all id]
      | none => operatorTruths holds ⟨tableAlias, key⟩ members next
  | .sequence _, next =>
      if relations.contains key then []
      else [comparisonTruth holds ⟨tableAlias, key⟩ .isIn next]
  | .scalar _, next =>
      if relations.contains key then []
      else [comparisonTruth holds ⟨tableAlias, key⟩ .eq next]
termination_by structural value => value

def entriesTruths (holds : String → Bool) (tableAlias : String) (relations : RelationMap) :
    List (String × FilterValue) → Nat → List Bool
  | [], _ => []
  | (key, value) :: rest, next =>
      value.truths holds tableAlias relations key next ++
        entriesTruths holds tableAlias relations rest
          (next + (value.boundValues relations key).length)
termination_by structural entries => entries

/-- The operands of each branch that contributes any. -/
def branchesTruths (holds : String → Bool) (tableAlias : String) (relations : RelationMap) :
    List Filter → Nat → List (List Bool)
  | [], _ => []
  | branch :: rest, next =>
      let truths := branch.truths holds tableAlias relations next
      let others := branchesTruths holds tableAlias relations rest
        (next + (branch.boundValues relations).length)
      if truths.isEmpty then others else truths :: others
termination_by structural branches => branches

end

/-! ## Clauses are read as their operands -/

theorem Clause.text_append {clause other : Clause} (hclause : clause ≠ []) (hother : other ≠ []) :
    Clause.text (clause ++ other) = Clause.text clause ++ (" AND " ++ Clause.text other) := by
  induction clause with
  | nil => exact absurd rfl hclause
  | cons condition rest ih =>
      cases rest with
      | nil =>
          cases other with
          | nil => exact absurd rfl hother
          | cons next others =>
              simp [Clause.text, Clause.conditionTexts, Text.joined_cons_cons,
                String.append_assoc]
      | cons next rest =>
          have hrest := ih (List.cons_ne_nil next rest)
          simp only [Clause.text, List.cons_append, Clause.conditionTexts,
            Text.joined_cons_cons] at hrest ⊢
          rw [hrest]
          simp [String.append_assoc]

/-- The clause is read as these operands, of which there are some. -/
structure Clause.Reads (holds : String → Bool) (clause : Clause) (truths : List Bool) : Prop where
  clause_ne : clause ≠ []
  truths_ne : truths ≠ []
  reads : Reading.ReadsAs holds clause.text.toList truths

theorem Clause.Reads.isEmpty_clause {holds : String → Bool} {clause : Clause} {truths : List Bool}
    (hreads : Clause.Reads holds clause truths) : clause.isEmpty = false := by
  rw [List.isEmpty_eq_false_iff]
  exact hreads.clause_ne

theorem Clause.Reads.isEmpty_truths {holds : String → Bool} {clause : Clause} {truths : List Bool}
    (hreads : Clause.Reads holds clause truths) : truths.isEmpty = false := by
  rw [List.isEmpty_eq_false_iff]
  exact hreads.truths_ne

/-- The clause is read as these operands, or both are empty. -/
def Clause.Means (holds : String → Bool) (clause : Clause) (truths : List Bool) : Prop :=
  clause = [] ∧ truths = [] ∨ Clause.Reads holds clause truths

abbrev ClausesRead (holds : String → Bool) : List Clause → List (List Bool) → Prop :=
  List.Forall₂ (Clause.Reads holds)

namespace Clause.Means

variable {holds : String → Bool} {clause other : Clause} {truths more : List Bool}

theorem nil : Clause.Means holds [] [] := .inl ⟨rfl, rfl⟩

theorem append (hclause : Clause.Means holds clause truths)
    (hother : Clause.Means holds other more) :
    Clause.Means holds (clause ++ other) (truths ++ more) := by
  rcases hclause with ⟨rfl, rfl⟩ | hclause
  · exact hother
  · rcases hother with ⟨rfl, rfl⟩ | hother
    · rw [List.append_nil, List.append_nil]
      exact .inr hclause
    · refine .inr ⟨List.append_ne_nil_of_left_ne_nil hclause.clause_ne other,
        List.append_ne_nil_of_left_ne_nil hclause.truths_ne more, ?_⟩
      rw [Clause.text_append hclause.clause_ne hother.clause_ne, String.toList_append,
        String.toList_append]
      exact hclause.reads.conjunction hother.reads

theorem comparison {column : Column} (hqualifier : Reading.IsWord column.qualifier)
    (hname : Reading.IsWord column.name) (operator : Operator) (first : Nat) :
    Clause.Means holds [.compare column operator first]
      [comparisonTruth holds column operator first] :=
  .inr ⟨List.cons_ne_nil _ _, List.cons_ne_nil _ _,
    Reading.ReadsAs.comparison hqualifier hname operator first⟩

theorem group {clauses : List Clause} {parts : List (List Bool)}
    (hclauses : ClausesRead holds clauses parts) (combinator : Combinator) :
    Clause.Means holds (if clauses.isEmpty then [] else [.group combinator clauses])
      (if parts.isEmpty then [] else [combinator.combine parts]) := by
  have htexts : Reading.ReadsAs.Each holds (Clause.texts clauses) parts := by
    induction hclauses with
    | nil => exact .nil
    | cons hclause _ ih => exact .cons hclause.reads ih
  cases hclauses with
  | nil => exact nil
  | cons hclause hothers =>
      refine .inr ⟨List.cons_ne_nil _ _, List.cons_ne_nil _ _, ?_⟩
      exact Reading.ReadsAs.enclose combinator htexts (List.cons_ne_nil _ _)

theorem enclosed (hclause : Clause.Means holds clause truths) :
    Clause.Means holds (if clause.isEmpty then [] else [.group .and [clause]])
      (if truths.isEmpty then [] else [truths.all id]) := by
  rcases hclause with ⟨rfl, rfl⟩ | hreads
  · exact nil
  · have hgroup := group (.cons hreads .nil) .and
    rw [hreads.isEmpty_clause, hreads.isEmpty_truths]
    simpa [Combinator.combine] using hgroup

theorem consBranch {clauses : List Clause} {parts : List (List Bool)}
    (hbranch : Clause.Means holds clause truths) (hothers : ClausesRead holds clauses parts) :
    ClausesRead holds (if clause.isEmpty then clauses else clause :: clauses)
      (if truths.isEmpty then parts else truths :: parts) := by
  rcases hbranch with ⟨rfl, rfl⟩ | hreads
  · exact hothers
  · rw [hreads.isEmpty_clause, hreads.isEmpty_truths]
    exact .cons hreads hothers

end Clause.Means

/-! ## The clause of a filter -/

section

variable {holds : String → Bool}

theorem compileOperators_means {column : Column} (hqualifier : Reading.IsWord column.qualifier)
    (hname : Reading.IsWord column.name) (members : List (String × Json)) (next : Nat) :
    Clause.Means holds (compileOperators column members next).clause
      (operatorTruths holds column members next) := by
  induction members generalizing next with
  | nil => exact .nil
  | cons member rest ih =>
      obtain ⟨name, operand⟩ := member
      rw [compileOperators, operatorTruths]
      cases Operator.ofName? name with
      | none => exact ih next
      | some operator =>
          exact (Clause.Means.comparison hqualifier hname operator next).append
            (ih (next + operator.arity.size))

mutual

theorem Filter.compile_means {tableAlias : String} (halias : Reading.IsWord tableAlias)
    (relations : RelationMap) :
    (filter : Filter) → (∀ key ∈ filter.keys, Reading.IsWord key) → (first : Nat) →
      Clause.Means holds (filter.compile tableAlias relations first).clause
        (filter.truths holds tableAlias relations first)
  | .ofEntries entries, hkeys, first => by
      rw [Filter.keys] at hkeys
      rw [Filter.compile, Filter.truths]
      exact compileEntries_means halias relations entries hkeys first
termination_by structural filter => filter

theorem FilterValue.compile_means {tableAlias : String} (halias : Reading.IsWord tableAlias)
    (relations : RelationMap)
    {key : String} (hkey : Reading.IsWord key) :
    (value : FilterValue) → (∀ key ∈ value.keys, Reading.IsWord key) → (first : Nat) →
      Clause.Means holds (value.compile tableAlias relations key first).clause
        (value.truths holds tableAlias relations key first)
  | .combinator combinator branches, hkeys, first => by
      rw [FilterValue.keys] at hkeys
      rw [FilterValue.compile, FilterValue.truths]
      exact .group (compileBranches_means halias relations branches hkeys first) combinator
  | .mapping nested members, hkeys, first => by
      rw [FilterValue.keys] at hkeys
      rw [FilterValue.compile, FilterValue.truths]
      cases relations.get? key with
      | some inner => exact .enclosed (nested.compile_means hkey inner hkeys first)
      | none => exact compileOperators_means halias hkey members first
  | .sequence items, hkeys, first => by
      rw [FilterValue.compile, FilterValue.truths]
      cases relations.contains key with
      | true => exact .nil
      | false => exact .comparison halias hkey .isIn first
  | .scalar value, hkeys, first => by
      rw [FilterValue.compile, FilterValue.truths]
      cases relations.contains key with
      | true => exact .nil
      | false => exact .comparison halias hkey .eq first
termination_by structural value => value

theorem compileEntries_means {tableAlias : String} (halias : Reading.IsWord tableAlias)
    (relations : RelationMap) :
    (entries : List (String × FilterValue)) → (∀ key ∈ entriesKeys entries, Reading.IsWord key) →
      (first : Nat) →
      Clause.Means holds (compileEntries tableAlias relations entries first).clause
        (entriesTruths holds tableAlias relations entries first)
  | [], hkeys, first => .nil
  | (key, value) :: rest, hkeys, first => by
      rw [entriesKeys, List.forall_mem_cons, List.forall_mem_append] at hkeys
      obtain ⟨hkey, hvalueKeys, hrestKeys⟩ := hkeys
      have hvalue := value.compile_means halias relations hkey hvalueKeys first
      have hrest := compileEntries_means halias relations rest hrestKeys
        (first + (value.boundValues relations key).length)
      -- the compiler counts on from where the values of this entry end
      have hnext := (value.compile_binds tableAlias relations key first).next
      rw [compileEntries, entriesTruths, Compiled.followedBy]
      simp only [hnext]
      exact hvalue.append hrest
termination_by structural entries => entries

theorem compileBranches_means {tableAlias : String} (halias : Reading.IsWord tableAlias)
    (relations : RelationMap) :
    (branches : List Filter) → (∀ key ∈ branchesKeys branches, Reading.IsWord key) →
      (first : Nat) →
      ClausesRead holds (compileBranches tableAlias relations branches first).clauses
        (branchesTruths holds tableAlias relations branches first)
  | [], hkeys, first => .nil
  | branch :: rest, hkeys, first => by
      rw [branchesKeys, List.forall_mem_append] at hkeys
      have hbranch := branch.compile_means halias relations hkeys.1 first
      have hrest := compileBranches_means halias relations rest hkeys.2
        (first + (branch.boundValues relations).length)
      have hnext := (branch.compile_binds tableAlias relations first).next
      rw [compileBranches, branchesTruths, hnext]
      exact hbranch.consBranch hrest
termination_by structural branches => branches

end

end

/-- A clause without operands is empty; every other clause is read as the conjunction of the
operands of its filter. -/
theorem readClause_compile (holds : String → Bool) (filter : Filter) (tableAlias : String)
    (relations : RelationMap) (first : Nat) (halias : Reading.IsWord tableAlias)
    (hkeys : ∀ key ∈ filter.keys, Reading.IsWord key) :
    let compiled := filter.compile tableAlias relations first
    let truths := filter.truths holds tableAlias relations first
    compiled.text = "" ∧ truths = [] ∨
      compiled.text ≠ "" ∧ truths ≠ [] ∧
        readClause holds compiled.text = some (truths.all id) := by
  intro compiled truths
  have hmeans : Clause.Means holds compiled.clause truths :=
    filter.compile_means halias relations hkeys first
  have hempty : compiled.text = "" ↔ compiled.clause = [] := Clause.text_eq_empty_iff _
  rcases hmeans with ⟨hclause, htruths⟩ | hreads
  · exact .inl ⟨hempty.mpr hclause, htruths⟩
  · refine .inr ⟨fun htext => hreads.clause_ne (hempty.mp htext), hreads.truths_ne, ?_⟩
    have hread := hreads.reads Frame.start [] [] Reading.boundary_nil
    rw [List.append_nil, Reading.operator, Frame.operands_of_not_negated rfl] at hread
    unfold readClause
    rw [Compiled.text, hread]
    simp [Frame.value, Frame.start]

def Filter.ofNegation : Filter :=
  .ofEntries [("not", .combinator .not [
    .ofEntries [("title", .mapping
      (.ofEntries [("eq", .scalar (.string "x")), ("between", .sequence [.null, .null])])
      [("eq", .string "x"), ("between", .array [.null, .null])])],
    .ofEntries [("tags", .mapping
      (.ofEntries [("isEmpty", .scalar (.bool true))]) [("isEmpty", .bool true)])]])]

theorem readClause_compile_of_negation :
    Reading.IsWord "post_" ∧ (∀ key ∈ Filter.ofNegation.keys, Reading.IsWord key) ∧
      ∀ holds : String → Bool,
        readClause holds (Filter.ofNegation.compile "post_" .empty 0).text =
          some (!holds "post_.title = :param0" &&
            (holds "post_.title BETWEEN :param1 AND :param2" &&
              (holds "array_length(post_.tags,1)=0" || holds "post_.tags IS NULL"))) := by
  have halias : Reading.IsWord "post_" := by decide
  have hkeys : ∀ key ∈ Filter.ofNegation.keys, Reading.IsWord key := by decide
  refine ⟨halias, hkeys, ?_⟩
  intro holds
  have heq : comparisonText ⟨"post_", "title"⟩ .eq 0 = "post_.title = :param0" := by decide
  have hbetween : comparisonText ⟨"post_", "title"⟩ .between 1 =
      "post_.title BETWEEN :param1 AND :param2" := by decide
  have hlength : arrayLengthText ⟨"post_", "tags"⟩ "=0" = "array_length(post_.tags,1)=0" := by
    decide
  have hnull : comparisonText ⟨"post_", "tags"⟩ .isNull 3 = "post_.tags IS NULL" := by decide
  have htruths : Filter.ofNegation.truths holds "post_" .empty 0 =
      [Combinator.not.combine [
        [holds (comparisonText ⟨"post_", "title"⟩ .eq 0),
          holds (comparisonText ⟨"post_", "title"⟩ .between 1)],
        [holds (arrayLengthText ⟨"post_", "tags"⟩ "=0") ||
          holds (comparisonText ⟨"post_", "tags"⟩ .isNull 3)]]] := by
    rfl
  rw [heq, hbetween, hlength, hnull] at htruths
  rcases readClause_compile holds .ofNegation "post_" .empty 0 halias hkeys with
    ⟨-, hnone⟩ | ⟨-, -, hread⟩
  · rw [htruths] at hnone
    cases hnone
  · rw [hread, htruths]
    simp [Combinator.combine]

end FilterQuery
