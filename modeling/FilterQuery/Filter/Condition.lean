import FilterQuery.Filter.Basic
import FilterQuery.Filter.Operator
import FilterQuery.Text.Join

/-!
# Conditions

A clause is a list of conditions that all have to hold.  A condition compares one column, or is a
group of clauses in parentheses.  Comparisons name their parameters by number: a parameter stands
in the text as `:param7`, or as `:...param7` where its items are compared.
-/

namespace FilterQuery

structure Column where
  qualifier : String
  name : String
  deriving DecidableEq, Repr

def Column.text (column : Column) : String :=
  column.qualifier ++ "." ++ column.name

inductive Condition
  /-- The parameters of the operator are numbered from `first` on. -/
  | compare (column : Column) (operator : Operator) (first : Nat)
  | group (combinator : Combinator) (clauses : List (List Condition))

abbrev Clause := List Condition

def parameterName (index : Nat) : String :=
  "param" ++ toString index

theorem parameterName_injective {index other : Nat}
    (hname : parameterName index = parameterName other) : index = other := by
  have hdigits : Nat.toDigits 10 index = Nat.toDigits 10 other := by
    simpa [parameterName, String.ext_iff, Nat.toString_eq_repr] using hname
  rw [← Nat.ofDigitChars_ten_toDigits (n := index), hdigits,
    Nat.ofDigitChars_ten_toDigits]

def parameterNames (first count : Nat) : List String :=
  (List.range' first count).map parameterName

def comparisonText (column : Column) (operator : Operator) (first : Nat) : String :=
  match operator with
  | .isEmpty =>
      "(array_length(" ++ column.text ++ ",1)=0 OR " ++ column.text ++ " IS NULL)"
  | .isNotEmpty => "array_length(" ++ column.text ++ ",1)>0"
  | operator =>
      column.text ++ " " ++ operator.sql ++
        match operator.arity with
        | .nullary => ""
        | .unary => " :" ++ parameterName first
        | .list => " (:..." ++ parameterName first ++ ")"
        | .pair => " :" ++ parameterName first ++ " AND :" ++ parameterName (first + 1)

def Combinator.enclose (combinator : Combinator) (clauses : List String) : String :=
  (match combinator with
    | .not => "(NOT "
    | .and | .or => "(") ++ Text.joined combinator.separator clauses ++ ")"

mutual

def Condition.text : Condition → String
  | .compare column operator first => comparisonText column operator first
  | .group combinator clauses => combinator.enclose (Clause.texts clauses)
termination_by structural condition => condition

def Clause.conditionTexts : List Condition → List String
  | [] => []
  | condition :: rest => condition.text :: Clause.conditionTexts rest
termination_by structural conditions => conditions

def Clause.texts : List (List Condition) → List String
  | [] => []
  | clause :: rest => Text.joined " AND " (Clause.conditionTexts clause) :: Clause.texts rest
termination_by structural clauses => clauses

end

def Clause.text (clause : Clause) : String :=
  Text.joined " AND " (Clause.conditionTexts clause)

theorem comparisonText_ne_empty (column : Column) (operator : Operator) (first : Nat) :
    comparisonText column operator first ≠ "" := by
  unfold comparisonText
  split
  · simp
  · simp
  · simp only [ne_eq, String.append_eq_empty_iff]
    rintro ⟨⟨⟨-, hspace⟩, -⟩, -⟩
    exact absurd hspace (by decide)

theorem Condition.text_ne_empty (condition : Condition) : condition.text ≠ "" := by
  cases condition with
  | compare column operator first =>
    rw [Condition.text]
    exact comparisonText_ne_empty column operator first
  | group combinator clauses =>
    rw [Condition.text]
    cases combinator <;> simp [Combinator.enclose]

/-- Only the clause without conditions has no text. -/
theorem Clause.text_eq_empty_iff (clause : Clause) : clause.text = "" ↔ clause = [] := by
  constructor
  · intro htext
    cases clause with
    | nil => rfl
    | cons condition rest =>
      exfalso
      cases rest with
      | nil => exact condition.text_ne_empty htext
      | cons next rest =>
        rw [Clause.text, Clause.conditionTexts, Clause.conditionTexts, Text.joined_cons_cons]
          at htext
        simp at htext
  · rintro rfl
    rfl

end FilterQuery
