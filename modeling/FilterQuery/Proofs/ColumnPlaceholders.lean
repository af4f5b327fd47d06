import FilterQuery.Proofs.PlaceholderScan

/-!
# Placeholders that columns bring along

The clause of a filter is scanned for placeholders as plain text, and its columns are spelled by the
keys of the filter.  So the names that are found are those of the parameters and, besides, all that
stand in the text of a column.  They are the parameters, once each, just where no column has a
placeholder in its text.
-/

namespace FilterQuery

open SqlPiece

/-- The names of the placeholders that are found in a text, in their order. -/
def placeholderNames (text : String) : List String :=
  (scan text.toList).filterMap fun piece => piece.reference?.map fun found => .ofList found.2

/-! ## Names in the parts of a text -/

theorem placeholderNames_of_notMem {text : String} (hcolon : ':' ∉ text.toList) :
    placeholderNames text = [] := by
  have hscan := scan_append_of_notMem hcolon []
  rw [List.append_nil, scan, List.append_nil] at hscan
  rw [placeholderNames, hscan, List.filterMap_map, List.filterMap_eq_nil_iff]
  intro c _
  rfl

theorem placeholderNames_plain_append {text : String} (hcolon : ':' ∉ text.toList)
    (more : String) : placeholderNames (text ++ more) = placeholderNames more := by
  have hplain : ((text.toList.map SqlPiece.char).filterMap fun piece =>
      piece.reference?.map fun found => String.ofList found.2) = [] := by
    rw [List.filterMap_map, List.filterMap_eq_nil_iff]
    intro c _
    rfl
  rw [placeholderNames, placeholderNames, String.toList_append, scan_append_of_notMem hcolon,
    List.filterMap_append, hplain, List.nil_append]

/-- Behind a text the names go on from the first separator. -/
theorem placeholderNames_append {more : String} {c : Char} {rest : List Char}
    (hmore : more.toList = c :: rest) (hc : IsSeparator c) (text : String) :
    placeholderNames (text ++ more) = placeholderNames text ++ placeholderNames more := by
  rw [placeholderNames, String.toList_append, hmore, scan_append_separator hc,
    List.filterMap_append, ← hmore]
  rfl

theorem placeholderNames_append_plain {plain : String} {c : Char} {rest : List Char}
    (hplain : plain.toList = c :: rest) (hc : IsSeparator c) (hcolon : ':' ∉ plain.toList)
    (text : String) : placeholderNames (text ++ plain) = placeholderNames text := by
  rw [placeholderNames_append hplain hc, placeholderNames_of_notMem hcolon, List.append_nil]

/-- A plain text that begins with a separator keeps the names on both sides apart. -/
theorem placeholderNames_between {plain : String} {c : Char} {rest : List Char}
    (hplain : plain.toList = c :: rest) (hc : IsSeparator c) (hcolon : ':' ∉ plain.toList)
    (text more : String) :
    placeholderNames (text ++ (plain ++ more)) =
      placeholderNames text ++ placeholderNames more := by
  have hmore : (plain ++ more).toList = c :: (rest ++ more.toList) := by
    rw [String.toList_append, hplain, List.cons_append]
  rw [placeholderNames_append hmore hc, placeholderNames_plain_append hcolon]

theorem placeholderNames_joined {separator : String} {rest : List Char}
    (hseparator : separator.toList = ' ' :: rest) (hcolon : ':' ∉ rest) (parts : List String) :
    placeholderNames (Text.joined separator parts) = parts.flatMap placeholderNames := by
  induction parts with
  | nil => exact placeholderNames_of_notMem (by simp)
  | cons part others ih =>
      cases others with
      | nil => simp
      | cons next others =>
          have hplain : ':' ∉ separator.toList := by
            simp [hseparator, hcolon]
          rw [Text.joined_cons_cons, String.append_assoc,
            placeholderNames_between hseparator (by decide) hplain, ih]
          rfl

theorem Combinator.placeholderNames_enclose (combinator : Combinator) (clauses : List String) :
    placeholderNames (combinator.enclose clauses) = clauses.flatMap placeholderNames := by
  obtain ⟨rest, hseparator, hcolon⟩ := combinator.separator_toList
  have hclosing : ")".toList = [')'] := rfl
  have hopened (opening : String) (hopening : ':' ∉ opening.toList) :
      placeholderNames (opening ++ Text.joined combinator.separator clauses ++ ")") =
        clauses.flatMap placeholderNames := by
    rw [placeholderNames_append_plain hclosing (by decide) (by decide),
      placeholderNames_plain_append hopening, placeholderNames_joined hseparator hcolon]
  cases combinator with
  | not => exact hopened "(NOT " (by decide)
  | and => exact hopened "(" (by decide)
  | or => exact hopened "(" (by decide)

/-! ## Names in a clause -/

/-- The names are those of `bound`, in their order, and all that the columns bring along. -/
structure BoundOrBrought (names bound : List String) (columns : List Column) : Prop where
  sublist : bound.Sublist names
  exists_perm : ∃ brought, names.Perm (bound ++ brought) ∧
    ∀ name, name ∈ brought ↔ ∃ column ∈ columns, name ∈ placeholderNames column.text

namespace BoundOrBrought

variable {names bound more others : List String} {columns rest : List Column}

theorem nil : BoundOrBrought [] [] [] :=
  ⟨List.Sublist.refl [], [], List.Perm.refl [], by simp⟩

theorem append (hnames : BoundOrBrought names bound columns)
    (hmore : BoundOrBrought more others rest) :
    BoundOrBrought (names ++ more) (bound ++ others) (columns ++ rest) := by
  obtain ⟨hsublist, brought, hperm, hbrought⟩ := hnames
  obtain ⟨hmoreSublist, moreBrought, hmorePerm, hmoreBrought⟩ := hmore
  refine ⟨hsublist.append hmoreSublist, brought ++ moreBrought, ?_, ?_⟩
  · have hboth := hperm.append hmorePerm
    rw [List.append_assoc] at hboth ⊢
    refine hboth.trans (List.Perm.append_left bound ?_)
    rw [← List.append_assoc, ← List.append_assoc]
    exact List.perm_append_comm.append_right moreBrought
  · intro name
    simp only [List.mem_append, hbrought, hmoreBrought, or_and_right, exists_or]

theorem bound_only (bound : List String) : BoundOrBrought bound bound [] :=
  ⟨List.Sublist.refl bound, [], by simp, by simp⟩

theorem ofColumn {column : Column}
    (hnames : ∀ name, name ∈ names ↔ name ∈ placeholderNames column.text) :
    BoundOrBrought names [] [column] :=
  ⟨List.nil_sublist _, names, List.Perm.refl _, by simpa using hnames⟩

theorem mem_iff (hnames : BoundOrBrought names bound columns) (name : String) :
    name ∈ names ↔ name ∈ bound ∨ ∃ column ∈ columns, name ∈ placeholderNames column.text := by
  obtain ⟨-, brought, hperm, hbrought⟩ := hnames
  rw [hperm.mem_iff, List.mem_append, hbrought]

theorem length_eq_iff (hnames : BoundOrBrought names bound columns) :
    names.length = bound.length ↔ ∀ column ∈ columns, placeholderNames column.text = [] := by
  obtain ⟨-, brought, hperm, hbrought⟩ := hnames
  rw [hperm.length_eq, List.length_append]
  constructor
  · intro hlength column hmem
    have hnone : brought = [] := List.length_eq_zero_iff.mp (by omega)
    rw [List.eq_nil_iff_forall_not_mem]
    intro name hname
    have hin : name ∈ brought := (hbrought name).mpr ⟨column, hmem, hname⟩
    rw [hnone] at hin
    exact List.not_mem_nil hin
  · intro hcolumns
    have hnone : brought = [] := by
      rw [List.eq_nil_iff_forall_not_mem]
      intro name hname
      obtain ⟨column, hmem, hfound⟩ := (hbrought name).mp hname
      rw [hcolumns column hmem] at hfound
      exact List.not_mem_nil hfound
    simp [hnone]

theorem eq_iff (hnames : BoundOrBrought names bound columns) :
    names = bound ↔ ∀ column ∈ columns, placeholderNames column.text = [] := by
  rw [← hnames.length_eq_iff]
  constructor
  · rintro rfl
    rfl
  · intro hlength
    exact (hnames.sublist.eq_of_length hlength.symm).symm

/-- If every bound name is found once and nothing else is, no column brings a name along. -/
theorem nodup_iff (hnames : BoundOrBrought names bound columns) (hbound : bound.Nodup) :
    (names.Nodup ∧ ∀ name, name ∈ names ↔ name ∈ bound) ↔
      ∀ column ∈ columns, placeholderNames column.text = [] := by
  rw [← hnames.length_eq_iff]
  constructor
  · rintro ⟨hnodup, hsame⟩
    exact ((List.perm_ext_iff_of_nodup hnodup hbound).mpr hsame).length_eq
  · intro hlength
    have heq := hnames.sublist.eq_of_length hlength.symm
    rw [← heq]
    exact ⟨hbound, fun name => Iff.rfl⟩

end BoundOrBrought

def boundNames (placeholders : List (Bool × Nat)) : List String :=
  placeholders.map fun placeholder => parameterName placeholder.2

theorem placeholderNames_of_hasPlaceholders {text : String} {placeholders : List (Bool × Nat)}
    (htext : HasPlaceholders text.toList placeholders) :
    placeholderNames text = boundNames placeholders := by
  obtain ⟨pieces, hpieces, -, hreferences⟩ := htext
  have hscan := hpieces [] endsIdentifier_nil
  rw [List.append_nil, scan, List.append_nil] at hscan
  have hnames := congrArg (List.map fun found => String.ofList found.2) hreferences
  rw [← hscan, List.map_filterMap, references, List.map_map] at hnames
  simpa [placeholderNames, boundNames, Function.comp_def] using hnames

theorem comparisonText_boundOrBrought (column : Column) (operator : Operator) (first : Nat) :
    BoundOrBrought (placeholderNames (comparisonText column operator first))
      (boundNames (comparisonPlaceholders operator first)) [column] := by
  by_cases hempty : operator = .isEmpty
  · subst hempty
    -- the text of this operator repeats the column
    have hnames : placeholderNames (comparisonText column .isEmpty first) =
        placeholderNames column.text ++ placeholderNames column.text := by
      have hnull : " IS NULL)".toList = ' ' :: "IS NULL)".toList := rfl
      have hlength : ",1)=0 OR ".toList = ',' :: "1)=0 OR ".toList := rfl
      rw [comparisonText_isEmpty, placeholderNames_append_plain hnull (by decide) (by decide),
        String.append_assoc, String.append_assoc, placeholderNames_plain_append (by decide),
        placeholderNames_between hlength (by decide) (by decide)]
    rw [hnames]
    exact .ofColumn (by simp)
  by_cases hnotEmpty : operator = .isNotEmpty
  · subst hnotEmpty
    have hnames : placeholderNames (comparisonText column .isNotEmpty first) =
        placeholderNames column.text := by
      have hlength : ",1)>0".toList = ',' :: "1)>0".toList := rfl
      rw [comparisonText_isNotEmpty, placeholderNames_append_plain hlength (by decide) (by decide),
        placeholderNames_plain_append (by decide)]
    rw [hnames]
    exact .ofColumn fun name => Iff.rfl
  · have hplain : ':' ∉ (" " ++ operator.sql).toList := by
      cases operator <;> decide
    have hspace : (" " ++ operator.sql).toList = ' ' :: operator.sql.toList := by
      simp
    have hoperands := Arity.operandText_hasPlaceholders operator.arity operator first rfl
    have htext : comparisonText column operator first =
        column.text ++ (" " ++ operator.sql ++ operator.arity.operandText first) := by
      rw [comparisonText_eq column operator first hempty hnotEmpty]
      simp only [String.append_assoc]
    rw [htext, placeholderNames_between hspace (by decide) hplain,
      placeholderNames_of_hasPlaceholders hoperands]
    exact (BoundOrBrought.ofColumn fun name => Iff.rfl).append (.bound_only _)

mutual

theorem Condition.boundOrBrought :
    (condition : Condition) →
      BoundOrBrought (placeholderNames condition.text) (boundNames condition.placeholders)
        condition.columns
  | .compare column operator first => by
      rw [Condition.text, Condition.placeholders, Condition.columns]
      exact comparisonText_boundOrBrought column operator first
  | .group combinator clauses => by
      rw [Condition.text, Condition.placeholders, Condition.columns,
        combinator.placeholderNames_enclose]
      exact clauses_boundOrBrought clauses
termination_by structural condition => condition

theorem Clause.boundOrBrought :
    (clause : List Condition) →
      BoundOrBrought ((Clause.conditionTexts clause).flatMap placeholderNames)
        (boundNames (Clause.placeholders clause)) (Clause.columns clause)
  | [] => .nil
  | condition :: rest => by
      have hcondition := condition.boundOrBrought
      have hrest := Clause.boundOrBrought rest
      rw [Clause.conditionTexts, Clause.placeholders, Clause.columns, List.flatMap_cons,
        boundNames, List.map_append]
      exact hcondition.append hrest
termination_by structural clause => clause

theorem clauses_boundOrBrought :
    (clauses : List (List Condition)) →
      BoundOrBrought ((Clause.texts clauses).flatMap placeholderNames)
        (boundNames (clausesPlaceholders clauses)) (clausesColumns clauses)
  | [] => .nil
  | clause :: rest => by
      have hclause := Clause.boundOrBrought clause
      have hrest := clauses_boundOrBrought rest
      have hand : " AND ".toList = ' ' :: "AND ".toList := rfl
      rw [Clause.texts, clausesPlaceholders, clausesColumns, List.flatMap_cons,
        placeholderNames_joined hand (by decide), boundNames, List.map_append]
      exact hclause.append hrest
termination_by structural clauses => clauses

end

theorem Filter.compile_boundOrBrought (filter : Filter) (tableAlias : String)
    (relations : RelationMap) (first : Nat) :
    let compiled := filter.compile tableAlias relations first
    BoundOrBrought (placeholderNames compiled.text) (Named.names compiled.parameters)
      (Clause.columns compiled.clause) := by
  intro compiled
  have hbinds : compiled.Binds first (filter.boundValues relations) :=
    filter.compile_binds tableAlias relations first
  have hand : " AND ".toList = ' ' :: "AND ".toList := rfl
  have hbound : boundNames (Clause.placeholders compiled.clause) =
      Named.names compiled.parameters := by
    rw [hbinds.parameters, names_numberedParameters, parameterNames, ← hbinds.placeholders,
      List.map_map]
    rfl
  have hclause := Clause.boundOrBrought compiled.clause
  rw [← placeholderNames_joined hand (by decide), hbound] at hclause
  exact hclause

/-- In the clause of a filter the parameters are found, each of them once, and besides only what its
columns bring along.  So the names that are found are the names of the parameters just where no
column has a placeholder in its text. -/
theorem placeholderNames_compile_iff (filter : Filter) (tableAlias : String)
    (relations : RelationMap) (first : Nat) :
    let compiled := filter.compile tableAlias relations first
    let found := placeholderNames compiled.text
    let bound := Named.names compiled.parameters
    let columns := Clause.columns compiled.clause
    (∀ name, name ∈ found ↔
      name ∈ bound ∨ ∃ column ∈ columns, name ∈ placeholderNames column.text) ∧
    (found = bound ↔ ∀ column ∈ columns, placeholderNames column.text = []) ∧
    ((found.Nodup ∧ ∀ name, name ∈ found ↔ name ∈ bound) ↔
      ∀ column ∈ columns, placeholderNames column.text = []) := by
  intro compiled found bound columns
  have hfound : BoundOrBrought found bound columns :=
    filter.compile_boundOrBrought tableAlias relations first
  have hbinds := filter.compile_binds tableAlias relations first
  have hnodup : bound.Nodup := by
    change (Named.names compiled.parameters).Nodup
    rw [hbinds.parameters, names_numberedParameters]
    exact nodup_parameterNames first _
  exact ⟨hfound.mem_iff, hfound.eq_iff, hfound.nodup_iff hnodup⟩

theorem placeholders_of_keys_found :
    let compiled key := (Filter.ofJson (.object [(key, .ofNat 1)])).compile "t" .empty 0
    Named.names (compiled "a:param0").parameters = ["param0"] ∧
      placeholderNames (compiled "a:param0").text = ["param0", "param0"] ∧
      Named.names (compiled "a:param1").parameters = ["param0"] ∧
      placeholderNames (compiled "a:param1").text = ["param1", "param0"] := by
  decide +kernel

end FilterQuery
