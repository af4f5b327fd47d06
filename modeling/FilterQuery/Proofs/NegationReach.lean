import FilterQuery.Proofs.FilterMeaning
import FilterQuery.Proofs.FilterPruning

/-!
# How far a negation reaches

`not` writes the operands of its branches as one chain, just as `and` does, with a `NOT` in front of
the chain.  As `NOT` binds tighter than `AND`, it covers the first operand only.  The clause is the
complement of the one that `and` writes wherever all other operands hold, and nowhere else.
-/

namespace FilterQuery

open Reading

def Filter.ofBranches (key : String) (combinator : Combinator) (branches : List Filter) : Filter :=
  .ofEntries [(key, .combinator combinator branches)]

def Filter.conjunction : List Filter → Filter := .ofBranches "and" .and

def Filter.negation : List Filter → Filter := .ofBranches "not" .not

/-! ## Branches that contribute -/

theorem Filter.text_ne_empty_iff (filter : Filter) (tableAlias : String)
    (relations : RelationMap) (next : Nat) :
    (filter.compile tableAlias relations next).text ≠ "" ↔
      (filter.prune relations).isEmpty = false := by
  rw [filter.isEmpty_prune tableAlias relations next, List.isEmpty_eq_false_iff]
  exact not_congr (Clause.text_eq_empty_iff _)

theorem mem_pruneBranches {relations : RelationMap} {branch : Filter} {branches : List Filter}
    (hmem : branch ∈ branches) (hkept : (branch.prune relations).isEmpty = false) :
    branch.prune relations ∈ pruneBranches relations branches := by
  induction branches with
  | nil => exact absurd hmem List.not_mem_nil
  | cons first rest ih =>
      rw [pruneBranches]
      rcases List.mem_cons.mp hmem with rfl | hmem
      · simp [hkept]
      · have hrest := ih hmem
        cases (first.prune relations).isEmpty with
        | true => exact hrest
        | false => exact List.mem_cons_of_mem _ hrest

/-- A branch that has a clause somewhere has one wherever it is compiled. -/
theorem compileBranches_ne_nil {tableAlias : String} {relations : RelationMap} {first : Nat}
    {branches : List Filter}
    (hcontributes : ∃ branch ∈ branches, (branch.compile tableAlias relations first).text ≠ "")
    (next : Nat) : (compileBranches tableAlias relations branches next).clauses ≠ [] := by
  obtain ⟨branch, hmem, htext⟩ := hcontributes
  have hkept := (branch.text_ne_empty_iff tableAlias relations first).mp htext
  have hne := List.ne_nil_of_mem (mem_pruneBranches hmem hkept)
  have hempty := pruneBranches_isEmpty tableAlias relations branches next
  rw [← List.isEmpty_eq_false_iff] at hne ⊢
  rw [← hempty]
  exact hne

/-! ## The chain behind a combinator -/

variable {holds : String → Bool}

theorem Clause.Reads.readClause_text {clause : Clause} {truths : List Bool}
    (hreads : Clause.Reads holds clause truths) :
    readClause holds clause.text = some (truths.all id) := by
  have hread := hreads.reads Frame.start [] [] boundary_nil
  rw [List.append_nil, operator, Frame.operands_of_not_negated rfl] at hread
  rw [readClause, hread]
  simp [Frame.value, Frame.start]

theorem ClausesRead.exists_flatten_eq_cons {clauses : List Clause} {parts : List (List Bool)}
    (hreads : ClausesRead holds clauses parts) (hne : clauses ≠ []) :
    ∃ truth rest, parts.flatten = truth :: rest := by
  cases hreads with
  | nil => exact absurd rfl hne
  | @cons clause part clauses parts hclause hothers =>
      obtain ⟨truth, rest, hpart⟩ := List.exists_cons_of_ne_nil hclause.truths_ne
      exact ⟨truth, rest ++ parts.flatten, by rw [hpart]; rfl⟩

theorem ClausesRead.readClause_group {clauses : List Clause} {parts : List (List Bool)}
    (hreads : ClausesRead holds clauses parts) (hne : clauses ≠ []) (combinator : Combinator) :
    readClause holds (Clause.text [.group combinator clauses]) =
      some (combinator.combine parts) := by
  have hmeans := Clause.Means.group hreads combinator
  cases hreads with
  | nil => exact absurd rfl hne
  | cons hclause hothers =>
      rcases hmeans with ⟨hnone, -⟩ | hgroup
      · cases hnone
      · have hread := hgroup.readClause_text
        simpa using hread

theorem text_compile_ofBranches {tableAlias : String} {relations : RelationMap} {first : Nat}
    {branches : List Filter}
    (hne : (compileBranches tableAlias relations branches first).clauses ≠ [])
    (key : String) (combinator : Combinator) :
    ((Filter.ofBranches key combinator branches).compile tableAlias relations first).text =
      Clause.text
        [.group combinator (compileBranches tableAlias relations branches first).clauses] := by
  have hempty := List.isEmpty_eq_false_iff.mpr hne
  simp [Filter.ofBranches, Filter.compile, compileEntries, FilterValue.compile,
    Compiled.followedBy, Compiled.combined, Compiled.nothing, Compiled.text, hempty]

theorem readClause_compile_ofBranches {tableAlias : String} {relations : RelationMap}
    {first : Nat} {branches : List Filter} (halias : IsWord tableAlias)
    (hkeys : ∀ key ∈ branchesKeys branches, IsWord key)
    (hne : (compileBranches tableAlias relations branches first).clauses ≠ [])
    (key : String) (combinator : Combinator) :
    readClause holds
        ((Filter.ofBranches key combinator branches).compile tableAlias relations first).text =
      some (combinator.combine (branchesTruths holds tableAlias relations branches first)) := by
  have hreads : ClausesRead holds (compileBranches tableAlias relations branches first).clauses
      (branchesTruths holds tableAlias relations branches first) :=
    compileBranches_means halias relations branches hkeys first
  rw [text_compile_ofBranches hne]
  exact hreads.readClause_group hne combinator

/-- `not` and `and` read the same chain of operands; `not` has the first of them negated.  So it is
the complement of `and` under just those truth values under which all others hold. -/
theorem negation_complements_conjunction_iff (holds : String → Bool) (branches : List Filter)
    (tableAlias : String) (relations : RelationMap) (first : Nat) (halias : IsWord tableAlias)
    (hkeys : ∀ key ∈ branchesKeys branches, IsWord key)
    (hcontributes : ∃ branch ∈ branches, (branch.compile tableAlias relations first).text ≠ "") :
    let conjunction := ((Filter.conjunction branches).compile tableAlias relations first).text
    let negation := ((Filter.negation branches).compile tableAlias relations first).text
    ∃ truth rest,
      (branchesTruths holds tableAlias relations branches first).flatten = truth :: rest ∧
        readClause holds conjunction = some (truth && rest.all id) ∧
        readClause holds negation = some (!truth && rest.all id) ∧
        ((readClause holds negation = some true ↔ readClause holds conjunction = some false) ↔
          rest.all id = true) := by
  intro conjunction negation
  have hne := compileBranches_ne_nil hcontributes first
  have hreads : ClausesRead holds (compileBranches tableAlias relations branches first).clauses
      (branchesTruths holds tableAlias relations branches first) :=
    compileBranches_means halias relations branches hkeys first
  obtain ⟨truth, rest, hchain⟩ := hreads.exists_flatten_eq_cons hne
  have hconjunction : readClause holds conjunction = some (truth && rest.all id) := by
    calc readClause holds conjunction
        = some (Combinator.and.combine
            (branchesTruths holds tableAlias relations branches first)) :=
          readClause_compile_ofBranches halias hkeys hne "and" .and
      _ = some (truth && rest.all id) := by
          rw [Combinator.combine, ← List.all_flatten, hchain]
          rfl
  have hnegation : readClause holds negation = some (!truth && rest.all id) := by
    calc readClause holds negation
        = some (Combinator.not.combine
            (branchesTruths holds tableAlias relations branches first)) :=
          readClause_compile_ofBranches halias hkeys hne "not" .not
      _ = some (!truth && rest.all id) := by
          rw [Combinator.combine, hchain]
  refine ⟨truth, rest, hchain, hconjunction, hnegation, ?_⟩
  rw [hconjunction, hnegation]
  cases truth <;> cases rest.all id <;> simp

def Filter.ofRange : Filter :=
  .ofEntries [("age", .mapping
    (.ofEntries [("gte", .scalar (.ofNat 18)), ("lt", .scalar (.ofNat 65))])
    [("gte", .ofNat 18), ("lt", .ofNat 65)])]

def Filter.ofUntagged : Filter :=
  .ofEntries [("tags", .mapping
    (.ofEntries [("isEmpty", .scalar (.bool true))]) [("isEmpty", .bool true)])]

theorem negation_complements_conjunction_of_range :
    let branches := [Filter.ofRange, .ofUntagged]
    let conjunction := ((Filter.conjunction branches).compile "user_" .empty 0).text
    let negation := ((Filter.negation branches).compile "user_" .empty 0).text
    IsWord "user_" ∧ (∀ key ∈ branchesKeys branches, IsWord key) ∧
      (∃ branch ∈ branches, (branch.compile "user_" .empty 0).text ≠ "") ∧
      ∀ holds : String → Bool,
        (readClause holds negation = some true ↔ readClause holds conjunction = some false) ↔
          (holds "user_.age < :param1" &&
            (holds "array_length(user_.tags,1)=0" || holds "user_.tags IS NULL")) = true := by
  intro branches conjunction negation
  have halias : IsWord "user_" := by decide
  have hkeys : ∀ key ∈ branchesKeys branches, IsWord key := by decide
  have hcontributes : ∃ branch ∈ branches, (branch.compile "user_" .empty 0).text ≠ "" :=
    ⟨.ofRange, List.mem_cons_self, by decide⟩
  refine ⟨halias, hkeys, hcontributes, ?_⟩
  intro holds
  obtain ⟨truth, rest, hchain, -, -, hcomplement⟩ :=
    negation_complements_conjunction_iff holds branches "user_" .empty 0 halias hkeys hcontributes
  have hbelow : comparisonText ⟨"user_", "age"⟩ .lt 1 = "user_.age < :param1" := by decide
  have hlength : arrayLengthText ⟨"user_", "tags"⟩ "=0" = "array_length(user_.tags,1)=0" := by
    decide
  have hnull : comparisonText ⟨"user_", "tags"⟩ .isNull 2 = "user_.tags IS NULL" := by decide
  have htruths : (branchesTruths holds "user_" .empty branches 0).flatten =
      [holds (comparisonText ⟨"user_", "age"⟩ .gte 0),
        holds (comparisonText ⟨"user_", "age"⟩ .lt 1),
        holds (arrayLengthText ⟨"user_", "tags"⟩ "=0") ||
          holds (comparisonText ⟨"user_", "tags"⟩ .isNull 2)] := by
    rfl
  rw [hchain, hbelow, hlength, hnull] at htruths
  rw [hcomplement, (List.cons.inj htruths).2]
  simp

/-- Where both operands fail, the negation of two branches fails as their conjunction does. -/
theorem negation_of_two_branches_not_complement :
    let branches := [.object [("a", .ofNat 1)], .object [("b", .ofNat 2)]]
    let conjunction := (Filter.ofJson (.object [("and", .array branches)])).compile "t" .empty 0
    let negation := (Filter.ofJson (.object [("not", .array branches)])).compile "t" .empty 0
    conjunction.text = "(t.a = :param0 AND t.b = :param1)" ∧
      negation.text = "(NOT t.a = :param0 AND t.b = :param1)" ∧
      readClause (fun _ => false) conjunction.text = some false ∧
      readClause (fun _ => false) negation.text = some false := by
  have hconjunction : readClause (fun _ => false) "(t.a = :param0 AND t.b = :param1)" =
      some false := by
    decide +kernel
  have hnegation : readClause (fun _ => false) "(NOT t.a = :param0 AND t.b = :param1)" =
      some false := by
    decide +kernel
  exact ⟨by decide, by decide, hconjunction, hnegation⟩

end FilterQuery
