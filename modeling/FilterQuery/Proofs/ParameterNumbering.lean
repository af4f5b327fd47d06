import FilterQuery.Filter.Where

/-!
# Numbering of parameters

The clause of a filter takes its parameters from one counter.  This file fixes what a filter
binds, independently of its clause, as a list of values in document order, and shows that the
compiler binds exactly these values under consecutive names.  The names stand in the clause in the
same order, once each, so that merging the parameters of two parts never overwrites a value.
-/

namespace FilterQuery

/-! ## Values under consecutive names -/

def numberedParameters (first : Nat) (values : List Json) : Parameters :=
  (parameterNames first values.length).zip values

@[simp] theorem length_parameterNames (first count : Nat) :
    (parameterNames first count).length = count := by
  simp [parameterNames]

theorem parameterNames_add (first count more : Nat) :
    parameterNames first (count + more) =
      parameterNames first count ++ parameterNames (first + count) more := by
  rw [parameterNames, parameterNames, parameterNames, ← List.map_append,
    ← List.range'_append_1]

theorem mem_parameterNames {name : String} {first count : Nat} :
    name ∈ parameterNames first count ↔
      ∃ index, first ≤ index ∧ index < first + count ∧ parameterName index = name := by
  simp [parameterNames, List.mem_range'_1, and_assoc]

theorem nodup_parameterNames (first count : Nat) : (parameterNames first count).Nodup := by
  unfold parameterNames
  rw [List.nodup_iff_pairwise_ne, List.pairwise_map]
  have hrange : (List.range' first count).Pairwise (· ≠ ·) :=
    List.nodup_iff_pairwise_ne.mp List.nodup_range'
  exact hrange.imp fun hne hname => hne (parameterName_injective hname)

@[simp] theorem numberedParameters_nil (first : Nat) : numberedParameters first [] = [] := rfl

@[simp] theorem names_numberedParameters (first : Nat) (values : List Json) :
    Named.names (numberedParameters first values) = parameterNames first values.length := by
  unfold Named.names numberedParameters
  exact List.map_fst_zip (by simp)

@[simp] theorem values_numberedParameters (first : Nat) (values : List Json) :
    (numberedParameters first values).map Prod.snd = values := by
  unfold numberedParameters
  exact List.map_snd_zip (by simp)

theorem numberedParameters_append (first : Nat) (values more : List Json) :
    numberedParameters first (values ++ more) =
      numberedParameters first values ++ numberedParameters (first + values.length) more := by
  unfold numberedParameters
  rw [List.length_append, parameterNames_add]
  exact List.zip_append (by simp)

/-- Names with higher numbers are new, so merging keeps every value. -/
theorem extend_numberedParameters (first : Nat) (values more : List Json) :
    Named.extend (numberedParameters first values)
        (numberedParameters (first + values.length) more) =
      numberedParameters first (values ++ more) := by
  rw [numberedParameters_append]
  apply Named.extend_eq_append
  · intro name hlater hearlier
    rw [names_numberedParameters, mem_parameterNames] at hlater hearlier
    obtain ⟨index, hlow, -, hindex⟩ := hlater
    obtain ⟨other, -, hhigh, hother⟩ := hearlier
    have heq : other = index := parameterName_injective (hother.trans hindex.symm)
    omega
  · rw [names_numberedParameters]
    exact nodup_parameterNames _ _

theorem numberedParameters_cons (first : Nat) (value : Json) (rest : List Json) :
    numberedParameters first (value :: rest) =
      (parameterName first, value) :: numberedParameters (first + 1) rest := by
  have happend := numberedParameters_append first [value] rest
  rw [List.singleton_append] at happend
  rw [happend]
  rfl

theorem get?_numberedParameters (first index : Nat) (values : List Json) :
    Named.get? (parameterName (first + index)) (numberedParameters first values) =
      values[index]? := by
  induction values generalizing first index with
  | nil => rfl
  | cons value rest ih =>
      rw [numberedParameters_cons, Named.get?]
      cases index with
      | zero => rw [Nat.add_zero, if_pos rfl, List.getElem?_cons_zero]
      | succ index =>
          have hne : parameterName first ≠ parameterName (first + (index + 1)) := by
            intro hname
            have heq := parameterName_injective hname
            omega
          have hshift : first + (index + 1) = (first + 1) + index := by
            omega
          rw [if_neg hne, hshift, ih, List.getElem?_cons_succ]

/-! ## The values that a filter binds -/

def Json.itemOrNull : Json → Nat → Json
  | .array items, index => items[index]?.getD .null
  | _, _ => .null

def Operator.boundOperands (operator : Operator) (operand : Json) : List Json :=
  match operator with
  | .isNull | .isNotNull | .isEmpty | .isNotEmpty => []
  | .between | .notBetween => [operand.itemOrNull 0, operand.itemOrNull 1]
  | .eq | .ne | .gt | .gte | .lt | .lte | .like | .ilike | .contains | .isIn | .notIn => [operand]

theorem Operator.operands_eq_boundOperands (operator : Operator) (operand : Json) :
    operator.operands operand = operator.boundOperands operand := by
  cases operator <;> cases operand <;> rfl

def operatorValues : List (String × Json) → List Json
  | [] => []
  | (name, operand) :: rest =>
      (match Operator.ofName? name with
        | some operator => operator.boundOperands operand
        | none => []) ++ operatorValues rest

mutual

/-- The operands of a filter in document order. -/
def Filter.boundValues (relations : RelationMap) : Filter → List Json
  | .ofEntries entries => entriesBoundValues relations entries
termination_by structural filter => filter

def FilterValue.boundValues (relations : RelationMap) (key : String) : FilterValue → List Json
  | .combinator _ branches => branchesBoundValues relations branches
  | .mapping nested members =>
      match relations.get? key with
      | some inner => nested.boundValues inner
      | none => operatorValues members
  | .sequence items => if relations.contains key then [] else [.array items]
  | .scalar value => if relations.contains key then [] else [value]
termination_by structural value => value

def entriesBoundValues (relations : RelationMap) : List (String × FilterValue) → List Json
  | [] => []
  | (key, value) :: rest => value.boundValues relations key ++ entriesBoundValues relations rest
termination_by structural entries => entries

def branchesBoundValues (relations : RelationMap) : List Filter → List Json
  | [] => []
  | branch :: rest => branch.boundValues relations ++ branchesBoundValues relations rest
termination_by structural branches => branches

end

/-! ## The placeholders of a clause -/

/-- Each placeholder with the number of its parameter, and whether it stands for the items of its
value. -/
def comparisonPlaceholders (operator : Operator) (first : Nat) : List (Bool × Nat) :=
  match operator.arity with
  | .nullary => []
  | .unary => [(false, first)]
  | .list => [(true, first)]
  | .pair => [(false, first), (false, first + 1)]

mutual

def Condition.placeholders : Condition → List (Bool × Nat)
  | .compare _ operator first => comparisonPlaceholders operator first
  | .group _ clauses => clausesPlaceholders clauses
termination_by structural condition => condition

def Clause.placeholders : List Condition → List (Bool × Nat)
  | [] => []
  | condition :: rest => condition.placeholders ++ Clause.placeholders rest
termination_by structural clause => clause

def clausesPlaceholders : List (List Condition) → List (Bool × Nat)
  | [] => []
  | clause :: rest => Clause.placeholders clause ++ clausesPlaceholders rest
termination_by structural clauses => clauses

end

theorem Clause.placeholders_append (clause other : Clause) :
    Clause.placeholders (clause ++ other) =
      Clause.placeholders clause ++ Clause.placeholders other := by
  induction clause with
  | nil => simp [Clause.placeholders]
  | cons condition rest ih =>
      rw [List.cons_append, Clause.placeholders, Clause.placeholders, ih, List.append_assoc]

theorem comparisonPlaceholders_numbers (operator : Operator) (first : Nat) :
    (comparisonPlaceholders operator first).map Prod.snd =
      List.range' first operator.arity.size := by
  unfold comparisonPlaceholders
  cases operator.arity <;> rfl

/-! ## Compiled parts bind values in their order -/

/-- A part that starts at `first` binds `values` under consecutive names, and its placeholders name
them in this order. -/
structure Compiled.Binds (compiled : Compiled) (first : Nat) (values : List Json) : Prop where
  next : compiled.next = first + values.length
  parameters : compiled.parameters = numberedParameters first values
  placeholders :
    (Clause.placeholders compiled.clause).map Prod.snd = List.range' first values.length

structure CompiledBranches.Binds (branches : CompiledBranches) (first : Nat)
    (values : List Json) : Prop where
  next : branches.next = first + values.length
  parameters : branches.parameters = numberedParameters first values
  placeholders :
    (clausesPlaceholders branches.clauses).map Prod.snd = List.range' first values.length

namespace Compiled

theorem binds_nothing (next : Nat) : (nothing next).Binds next [] := by
  constructor <;> rfl

theorem binds_comparison (column : Column) (operator : Operator) (operand : Json) (next : Nat) :
    (comparison column operator operand next).Binds next (operator.operands operand) := by
  have hlength := operator.length_operands operand
  constructor
  · rw [comparison, hlength]
  · rw [comparison, numberedParameters, hlength]
  · rw [comparison, hlength]
    simp only [Clause.placeholders, Condition.placeholders, List.append_nil]
    exact comparisonPlaceholders_numbers operator next

theorem binds_combined {branches : CompiledBranches} {first : Nat} {values : List Json}
    (hbinds : branches.Binds first values) (combinator : Combinator) :
    (Compiled.combined combinator branches).Binds first values := by
  refine ⟨hbinds.next, hbinds.parameters, ?_⟩
  rw [← hbinds.placeholders]
  cases hclauses : branches.clauses with
  | nil => simp [Compiled.combined, hclauses, Clause.placeholders, clausesPlaceholders]
  | cons clause rest =>
      simp [Compiled.combined, hclauses, Clause.placeholders, Condition.placeholders]

theorem Binds.enclosed {inner : Compiled} {first : Nat} {values : List Json}
    (hbinds : inner.Binds first values) : inner.enclosed.Binds first values := by
  refine ⟨hbinds.next, hbinds.parameters, ?_⟩
  rw [← hbinds.placeholders]
  cases hclause : inner.clause with
  | nil => simp [Compiled.enclosed, hclause]
  | cons condition rest =>
      simp [Compiled.enclosed, hclause, Clause.placeholders, Condition.placeholders,
        clausesPlaceholders]

theorem Binds.followedBy {compiled : Compiled} {rest : Nat → Compiled} {first : Nat}
    {values more : List Json} (hfirst : compiled.Binds first values)
    (hrest : (rest (first + values.length)).Binds (first + values.length) more) :
    (compiled.followedBy rest).Binds first (values ++ more) := by
  -- the second part starts at the number where the values of the first one end
  have hsecond : rest compiled.next = rest (first + values.length) := by
    rw [hfirst.next]
  constructor
  · rw [Compiled.followedBy, hsecond, List.length_append, ← Nat.add_assoc]
    exact hrest.next
  · rw [Compiled.followedBy, hsecond]
    simp only
    rw [hfirst.parameters, hrest.parameters]
    exact extend_numberedParameters first values more
  · rw [Compiled.followedBy, hsecond]
    simp only
    rw [Clause.placeholders_append, List.map_append, hfirst.placeholders, hrest.placeholders,
      List.length_append]
    exact List.range'_append_1

/-- A clause without conditions has no placeholders, so nothing is bound for it. -/
theorem Binds.eq_nil_of_text_eq_empty {compiled : Compiled} {first : Nat} {values : List Json}
    (hbinds : compiled.Binds first values) (htext : compiled.text = "") : values = [] := by
  have hclause : compiled.clause = [] := (Clause.text_eq_empty_iff _).mp htext
  have hrange := hbinds.placeholders
  rw [hclause, Clause.placeholders, List.map_nil] at hrange
  have hlength : values.length = 0 := List.range'_eq_nil_iff.mp hrange.symm
  exact List.length_eq_zero_iff.mp hlength

end Compiled

theorem CompiledBranches.binds_cons {branch : Compiled} {others : CompiledBranches} {first : Nat}
    {values more : List Json} (hbranch : branch.Binds first values)
    (hothers : others.Binds (first + values.length) more) :
    CompiledBranches.Binds
      { clauses := if branch.clause.isEmpty then others.clauses
          else branch.clause :: others.clauses
        parameters := Named.extend branch.parameters others.parameters
        next := others.next } first (values ++ more) := by
  constructor
  · rw [List.length_append, ← Nat.add_assoc]
    exact hothers.next
  · simp only
    rw [hbranch.parameters, hothers.parameters]
    exact extend_numberedParameters first values more
  · rw [List.length_append, ← List.range'_append_1, ← hbranch.placeholders,
      ← hothers.placeholders, ← List.map_append]
    cases hclause : branch.clause with
    | nil => simp [Clause.placeholders]
    | cons condition rest => simp [clausesPlaceholders]

theorem compileOperators_binds (column : Column) (members : List (String × Json)) (next : Nat) :
    (compileOperators column members next).Binds next (operatorValues members) := by
  induction members generalizing next with
  | nil => exact Compiled.binds_nothing next
  | cons member rest ih =>
      obtain ⟨name, operand⟩ := member
      rw [compileOperators, operatorValues]
      cases Operator.ofName? name with
      | none => exact ih next
      | some operator =>
          have hfirst := Compiled.binds_comparison column operator operand next
          rw [operator.operands_eq_boundOperands] at hfirst
          exact hfirst.followedBy (ih _)

mutual

theorem Filter.compile_binds (tableAlias : String) (relations : RelationMap) :
    (filter : Filter) → (first : Nat) →
      (filter.compile tableAlias relations first).Binds first (filter.boundValues relations)
  | .ofEntries entries, first => by
      rw [Filter.compile, Filter.boundValues]
      exact compileEntries_binds tableAlias relations entries first
termination_by structural filter => filter

theorem FilterValue.compile_binds (tableAlias : String) (relations : RelationMap) (key : String) :
    (value : FilterValue) → (first : Nat) →
      (value.compile tableAlias relations key first).Binds first (value.boundValues relations key)
  | .combinator combinator branches, first => by
      rw [FilterValue.compile, FilterValue.boundValues]
      exact Compiled.binds_combined (compileBranches_binds tableAlias relations branches first)
        combinator
  | .mapping nested members, first => by
      rw [FilterValue.compile, FilterValue.boundValues]
      cases relations.get? key with
      | some inner => exact (nested.compile_binds key inner first).enclosed
      | none => exact compileOperators_binds ⟨tableAlias, key⟩ members first
  | .sequence items, first => by
      rw [FilterValue.compile, FilterValue.boundValues]
      cases relations.contains key with
      | true => exact Compiled.binds_nothing first
      | false => exact Compiled.binds_comparison ⟨tableAlias, key⟩ .isIn (.array items) first
  | .scalar value, first => by
      rw [FilterValue.compile, FilterValue.boundValues]
      cases relations.contains key with
      | true => exact Compiled.binds_nothing first
      | false => exact Compiled.binds_comparison ⟨tableAlias, key⟩ .eq value first
termination_by structural value => value

theorem compileEntries_binds (tableAlias : String) (relations : RelationMap) :
    (entries : List (String × FilterValue)) → (first : Nat) →
      (compileEntries tableAlias relations entries first).Binds first
        (entriesBoundValues relations entries)
  | [], first => Compiled.binds_nothing first
  | (key, value) :: rest, first => by
      rw [compileEntries, entriesBoundValues]
      exact (value.compile_binds tableAlias relations key first).followedBy
        (compileEntries_binds tableAlias relations rest _)
termination_by structural entries => entries

theorem compileBranches_binds (tableAlias : String) (relations : RelationMap) :
    (branches : List Filter) → (first : Nat) →
      (compileBranches tableAlias relations branches first).Binds first
        (branchesBoundValues relations branches)
  | [], first => by constructor <;> rfl
  | branch :: rest, first => by
      have hbranch := branch.compile_binds tableAlias relations first
      have hrest := compileBranches_binds tableAlias relations rest
        (first + (branch.boundValues relations).length)
      rw [← hbranch.next] at hrest
      rw [compileBranches, branchesBoundValues]
      exact CompiledBranches.binds_cons hbranch (hbranch.next ▸ hrest)
termination_by structural branches => branches

end

/-! ## Filters compiled one after another -/

/-- The clauses of several filters, each with its alias and its relations, when one counter serves
them all. -/
def compileInTurn : List (Filter × String × RelationMap) → Nat → List Compiled
  | [], _ => []
  | (filter, tableAlias, relations) :: rest, next =>
      let first := filter.compile tableAlias relations next
      first :: compileInTurn rest first.next

theorem names_compileInTurn (tasks : List (Filter × String × RelationMap)) (first : Nat) :
    ∃ count, (compileInTurn tasks first).flatMap (fun compiled => Named.names compiled.parameters) =
      parameterNames first count := by
  induction tasks generalizing first with
  | nil => exact ⟨0, rfl⟩
  | cons task rest ih =>
      obtain ⟨filter, tableAlias, relations⟩ := task
      have hbinds := filter.compile_binds tableAlias relations first
      obtain ⟨count, hcount⟩ := ih (filter.compile tableAlias relations first).next
      refine ⟨(filter.boundValues relations).length + count, ?_⟩
      rw [compileInTurn, List.flatMap_cons, hcount, hbinds.next, hbinds.parameters,
        names_numberedParameters, parameterNames_add]

/-- A filter binds its operands in document order under consecutive names, it binds nothing if it
has no clause, and filters that share a counter never share a name. -/
theorem compile_binds_operands_in_order :
    (∀ (filter : Filter) (tableAlias : String) (relations : RelationMap) (first : Nat),
      let compiled := filter.compile tableAlias relations first
      let values := filter.boundValues relations
      compiled.next = first + values.length ∧
        Named.names compiled.parameters = parameterNames first values.length ∧
        compiled.parameters.map Prod.snd = values ∧
        (compiled.text ≠ "" ∨ values = [])) ∧
      ∀ (tasks : List (Filter × String × RelationMap)) (first : Nat),
        ((compileInTurn tasks first).flatMap
          fun compiled => Named.names compiled.parameters).Nodup := by
  constructor
  · intro filter tableAlias relations first compiled values
    have hbinds : compiled.Binds first values := filter.compile_binds tableAlias relations first
    refine ⟨hbinds.next, ?_, ?_, ?_⟩
    · rw [hbinds.parameters, names_numberedParameters]
    · rw [hbinds.parameters, values_numberedParameters]
    · by_cases htext : compiled.text = ""
      · exact .inr (hbinds.eq_nil_of_text_eq_empty htext)
      · exact .inl htext
  · intro tasks first
    obtain ⟨count, hnames⟩ := names_compileInTurn tasks first
    rw [hnames]
    exact nodup_parameterNames first count

end FilterQuery
