import FilterQuery.Proofs.PlaceholderScan
import Mathlib.Data.List.Forall2

/-!
# Reading a clause

How SQL reads the text of a clause when every single comparison is given a truth value: parentheses
come first, the `AND` of a `BETWEEN` belongs to it, `NOT` binds tighter than `AND`, and `AND` binds
tighter than `OR`.  The reader knows nothing of filters; it goes through the characters once and
keeps a frame for every open parenthesis.
-/

namespace FilterQuery

/-- What is known of the text behind an open parenthesis. -/
structure Frame where
  /-- One of the finished alternatives holds. -/
  alternatives : Bool
  /-- Everything in the current alternative holds so far. -/
  current : Bool
  /-- The next operand is negated. -/
  isNegated : Bool

namespace Frame

def start : Frame := ⟨false, true, false⟩

def value (frame : Frame) : Bool :=
  frame.alternatives || frame.current

def negate (frame : Frame) : Frame :=
  { frame with isNegated := !frame.isNegated }

def alternative (frame : Frame) : Frame :=
  { frame with alternatives := frame.value, current := true }

def operand (frame : Frame) (truth : Bool) : Frame :=
  { frame with
    current := frame.current && (truth != frame.isNegated)
    isNegated := false }

def operands (frame : Frame) (truths : List Bool) : Frame :=
  truths.foldl operand frame

end Frame

namespace Reading

/-- A comparison and the text behind it.  It ends at an unmatched parenthesis and before `AND` or
`OR`, unless it is waiting for the `AND` of a `BETWEEN`. -/
def comparison (depth : Nat) (isBetween : Bool) : List Char → List Char × List Char
  | [] => ([], [])
  | '(' :: rest =>
      let (text, after) := comparison (depth + 1) isBetween rest
      ('(' :: text, after)
  | ')' :: rest =>
      match depth with
      | 0 => ([], ')' :: rest)
      | depth + 1 =>
          let (text, after) := comparison depth isBetween rest
          (')' :: text, after)
  | ' ' :: rest =>
      if depth = 0 ∧ ("OR ".toList.isPrefixOf rest ∨ "AND ".toList.isPrefixOf rest ∧ !isBetween)
      then ([], ' ' :: rest)
      else
        let isBetween :=
          if depth = 0 then
            "BETWEEN ".toList.isPrefixOf rest || isBetween && !"AND ".toList.isPrefixOf rest
          else isBetween
        let (text, after) := comparison depth isBetween rest
        (' ' :: text, after)
  | c :: rest =>
      let (text, after) := comparison depth isBetween rest
      (c :: text, after)

theorem comparison_append (depth : Nat) (isBetween : Bool) (chars : List Char) :
    (comparison depth isBetween chars).1 ++ (comparison depth isBetween chars).2 = chars := by
  fun_induction comparison depth isBetween chars <;> simp_all

theorem length_comparison_lt {depth : Nat} {isBetween : Bool} {chars : List Char}
    (hread : (comparison depth isBetween chars).1 ≠ []) :
    (comparison depth isBetween chars).2.length < chars.length := by
  have hlength := congrArg List.length (comparison_append depth isBetween chars)
  rw [List.length_append] at hlength
  have hpositive := List.length_pos_iff.mpr hread
  omega

variable (holds : String → Bool)

mutual

def operand (frame : Frame) (outer : List Frame) : List Char → Option Bool
  | '(' :: rest => operand .start (frame :: outer) rest
  | 'N' :: 'O' :: 'T' :: ' ' :: rest => operand frame.negate outer rest
  | chars =>
      if _ : (comparison 0 false chars).1 = [] then none
      else
        operator (frame.operand (holds (String.ofList (comparison 0 false chars).1))) outer
          (comparison 0 false chars).2
termination_by chars => chars.length
decreasing_by
  · simp
  · simp
    omega
  · exact length_comparison_lt ‹_›

def operator (frame : Frame) (outer : List Frame) : List Char → Option Bool
  | [] => if outer.isEmpty then some frame.value else none
  | ')' :: rest =>
      match outer with
      | [] => none
      | enclosing :: outer => operator (enclosing.operand frame.value) outer rest
  | ' ' :: 'A' :: 'N' :: 'D' :: ' ' :: rest => operand frame outer rest
  | ' ' :: 'O' :: 'R' :: ' ' :: rest => operand frame.alternative outer rest
  | _ => none
termination_by chars => chars.length
decreasing_by
  · simp
  · simp
    omega
  · simp
    omega

end

end Reading

def readClause (holds : String → Bool) (text : String) : Option Bool :=
  Reading.operand holds .start [] text.toList

example :
    readClause (· == "c = 4") "NOT a = 1 AND b BETWEEN 2 AND 3 OR c = 4 AND NOT (a = 1 OR b = 2)" =
      some true := by
  decide +kernel

namespace Frame

theorem operands_cons (frame : Frame) (truth : Bool) (rest : List Bool) :
    frame.operands (truth :: rest) = (frame.operand truth).operands rest := rfl

theorem operands_append (frame : Frame) (truths more : List Bool) :
    frame.operands (truths ++ more) = (frame.operands truths).operands more :=
  List.foldl_append

theorem operands_of_not_negated {frame : Frame} (hnegated : frame.isNegated = false)
    (truths : List Bool) :
    frame.operands truths = { frame with current := frame.current && truths.all id } := by
  induction truths generalizing frame with
  | nil => simp [operands]
  | cons truth rest ih =>
      have hoperand : (frame.operand truth).isNegated = false := rfl
      rw [operands_cons, ih hoperand]
      simp [operand, hnegated, Bool.and_assoc]

end Frame

namespace Reading

/-! ## Comparisons are read to their end -/

def Boundary (rest : List Char) : Prop :=
  rest = [] ∨ (∃ more, rest = ')' :: more) ∨ (∃ more, rest = " AND ".toList ++ more) ∨
    ∃ more, rest = " OR ".toList ++ more

theorem boundary_nil : Boundary [] := .inl rfl

theorem boundary_closing (more : List Char) : Boundary (')' :: more) := .inr (.inl ⟨more, rfl⟩)

theorem boundary_and (more : List Char) : Boundary (" AND ".toList ++ more) :=
  .inr (.inr (.inl ⟨more, rfl⟩))

theorem boundary_or (more : List Char) : Boundary (" OR ".toList ++ more) :=
  .inr (.inr (.inr ⟨more, rfl⟩))

theorem comparison_boundary {rest : List Char} (hrest : Boundary rest) :
    comparison 0 false rest = ([], rest) := by
  rcases hrest with rfl | ⟨more, rfl⟩ | ⟨more, rfl⟩ | ⟨more, rfl⟩
  · simp [comparison]
  · simp [comparison]
  · simp [comparison, List.isPrefixOf]
  · simp [comparison, List.isPrefixOf]

def IsSolid (text : List Char) : Prop :=
  ∀ c ∈ text, c ≠ ' ' ∧ c ≠ '(' ∧ c ≠ ')'

instance (text : List Char) : Decidable (IsSolid text) :=
  List.decidableBAll _ text

theorem comparison_solid {text : List Char} (hsolid : IsSolid text) (depth : Nat)
    (isBetween : Bool) (rest : List Char) :
    comparison depth isBetween (text ++ rest) =
      (text ++ (comparison depth isBetween rest).1, (comparison depth isBetween rest).2) := by
  induction text with
  | nil => rfl
  | cons c more ih =>
      obtain ⟨hblank, hopening, hclosing⟩ := hsolid c List.mem_cons_self
      have hmore := ih fun d hmem => hsolid d (List.mem_cons_of_mem _ hmem)
      rw [List.cons_append, comparison.eq_6 _ _ _ _ hopening hclosing hblank, hmore]
      rfl

def IsWord (name : String) : Prop :=
  name ≠ "" ∧ ∀ c ∈ name.toList, isIdentifierChar c = true

instance (name : String) : Decidable (IsWord name) :=
  @instDecidableAnd _ _ inferInstance (List.decidableBAll _ name.toList)

theorem isSolid_of_isIdentifierChar {text : List Char}
    (htext : ∀ c ∈ text, isIdentifierChar c = true) : IsSolid text := by
  intro c hmem
  have hc := htext c hmem
  refine ⟨?_, ?_, ?_⟩ <;> rintro rfl <;> exact absurd hc (by decide)

theorem isSolid_parameterName (index : Nat) : IsSolid (parameterName index).toList := by
  obtain ⟨c, more, hname, hc, hmore⟩ := SqlPiece.isIdentifier_parameterName index
  apply isSolid_of_isIdentifierChar
  rw [hname, List.forall_mem_cons]
  refine ⟨?_, hmore⟩
  unfold isIdentifierStart at hc
  unfold isIdentifierChar Char.isAlphanum
  rw [Bool.or_eq_true] at hc
  rcases hc with hletter | hscore
  · simp [hletter]
  · simp [hscore]

theorem isSolid_column {column : Column} (hqualifier : IsWord column.qualifier)
    (hname : IsWord column.name) : IsSolid column.text.toList := by
  have htext : column.text.toList =
      column.qualifier.toList ++ ('.' :: column.name.toList) := by
    simp [Column.text]
  intro c hmem
  rw [htext, List.mem_append, List.mem_cons] at hmem
  rcases hmem with hmem | rfl | hmem
  · exact isSolid_of_isIdentifierChar hqualifier.2 c hmem
  · decide
  · exact isSolid_of_isIdentifierChar hname.2 c hmem

/-- The operator and the operands of a comparison belong to it, the `AND` of a range among them. -/
theorem comparison_operator {operator : Operator} (hempty : operator ≠ .isEmpty)
    (hnotEmpty : operator ≠ .isNotEmpty) (first : Nat) {rest : List Char}
    (hrest : Boundary rest) :
    comparison 0 false
        ((" " ++ operator.sql ++ operator.arity.operandText first).toList ++ rest) =
      ((" " ++ operator.sql ++ operator.arity.operandText first).toList, rest) := by
  have hend := comparison_boundary hrest
  have hparameter (index depth : Nat) (isBetween : Bool) (after : List Char) :=
    comparison_solid (isSolid_parameterName index) depth isBetween after
  cases operator with
  | isEmpty => exact absurd rfl hempty
  | isNotEmpty => exact absurd rfl hnotEmpty
  | _ =>
      -- up to the names of the parameters the text of each operator is a constant
      simp [Operator.sql, Operator.arity, Arity.operandText, comparison, List.isPrefixOf,
        hparameter, hend]

theorem operand_comparison (holds : String → Bool) (frame : Frame) (outer : List Frame)
    {text rest : List Char} (htext : text ≠ []) (hopening : ∀ more, text ++ rest ≠ '(' :: more)
    (hnot : ∀ more, text ++ rest ≠ "NOT ".toList ++ more)
    (hread : comparison 0 false (text ++ rest) = (text, rest)) :
    operand holds frame outer (text ++ rest) =
      operator holds (frame.operand (holds (String.ofList text))) outer rest := by
  rw [operand.eq_3 holds frame outer _ (fun more heq => hopening more heq)
    fun more heq => hnot more heq]
  simp only [hread]
  exact dif_neg htext

theorem ne_opening_of_isSolid {word : List Char} (hsolid : IsSolid word) (hword : word ≠ [])
    (rest more : List Char) : word ++ rest ≠ '(' :: more := by
  cases word with
  | nil => exact absurd rfl hword
  | cons c others =>
      intro heq
      exact (hsolid c List.mem_cons_self).2.1 (List.cons.inj heq).1

theorem ne_not_of_point {word : List Char} (hsolid : IsSolid word) (hpoint : '.' ∈ word)
    (rest more : List Char) : word ++ ' ' :: rest ≠ "NOT ".toList ++ more := by
  intro heq
  have hword : ∀ c ∈ word, (c != ' ') = true := by
    intro c hmem
    simpa using (hsolid c hmem).1
  have hfirst := congrArg (List.takeWhile (· != ' ')) heq
  rw [List.takeWhile_append_of_pos hword] at hfirst
  simp at hfirst
  rw [hfirst] at hpoint
  exact absurd hpoint (by decide)

/-! ## Texts that are read as conjunctions -/

/-- In front of a boundary the text is read as these operands with `AND` between each two. -/
def ReadsAs (holds : String → Bool) (text : List Char) (truths : List Bool) : Prop :=
  ∀ frame outer rest, Boundary rest →
    operand holds frame outer (text ++ rest) =
      operator holds (frame.operands truths) outer rest

namespace ReadsAs

variable {holds : String → Bool} {text more : List Char} {truths others : List Bool}
  {column : Column}

theorem conjunction (htext : ReadsAs holds text truths) (hmore : ReadsAs holds more others) :
    ReadsAs holds (text ++ (" AND ".toList ++ more)) (truths ++ others) := by
  intro frame outer rest hrest
  have hfirst := htext frame outer (" AND ".toList ++ (more ++ rest)) (boundary_and _)
  have hand : operator holds (frame.operands truths) outer (" AND ".toList ++ (more ++ rest)) =
      operand holds (frame.operands truths) outer (more ++ rest) :=
    operator.eq_4 holds _ outer _
  rw [List.append_assoc, List.append_assoc, hfirst, hand, hmore _ outer rest hrest,
    Frame.operands_append]

end ReadsAs

end Reading

/-! ## Comparisons -/

def arrayLengthText (column : Column) (condition : String) : String :=
  "array_length(" ++ column.text ++ ",1)" ++ condition

/-- An array is empty if one of two comparisons holds; every other operator is one comparison. -/
def comparisonTruth (holds : String → Bool) (column : Column) (operator : Operator)
    (first : Nat) : Bool :=
  match operator with
  | .isEmpty =>
      holds (arrayLengthText column "=0") || holds (comparisonText column .isNull first)
  | operator => holds (comparisonText column operator first)

namespace Reading.ReadsAs

variable {holds : String → Bool} {column : Column}

theorem compare (hqualifier : IsWord column.qualifier) (hname : IsWord column.name)
    {operator : Operator} (hempty : operator ≠ .isEmpty) (hnotEmpty : operator ≠ .isNotEmpty)
    (first : Nat) :
    ReadsAs holds (comparisonText column operator first).toList
      [holds (comparisonText column operator first)] := by
  intro frame outer rest hrest
  have hsolid := isSolid_column hqualifier hname
  have hpoint : '.' ∈ column.text.toList := by
    simp [Column.text]
  have htext : (comparisonText column operator first).toList = column.text.toList ++
      (" " ++ operator.sql ++ operator.arity.operandText first).toList := by
    rw [comparisonText_eq column operator first hempty hnotEmpty]
    simp
  have hstart : (comparisonText column operator first).toList ++ rest =
      column.text.toList ++ ' ' :: (operator.sql.toList ++
        ((operator.arity.operandText first).toList ++ rest)) := by
    rw [htext]
    simp
  have hread := comparison_solid hsolid 0 false
    ((" " ++ operator.sql ++ operator.arity.operandText first).toList ++ rest)
  rw [comparison_operator hempty hnotEmpty first hrest, ← List.append_assoc, ← htext] at hread
  rw [operand_comparison holds frame outer _ _ _ hread, String.ofList_toList]
  · rfl
  · simpa using comparisonText_ne_empty column operator first
  · intro more
    rw [hstart]
    exact ne_opening_of_isSolid hsolid (List.ne_nil_of_mem hpoint) _ more
  · -- a column may be called `NOT`, but its qualifier stands in front of it
    intro more
    rw [hstart]
    exact ne_not_of_point hsolid hpoint _ more

theorem arrayLength (hqualifier : IsWord column.qualifier) (hname : IsWord column.name)
    {condition : String} (hcondition : IsSolid condition.toList) :
    ReadsAs holds (arrayLengthText column condition).toList
      [holds (arrayLengthText column condition)] := by
  intro frame outer rest hrest
  have hend := comparison_boundary hrest
  have hcolumn := comparison_solid (isSolid_column hqualifier hname) 1 false
  have hlast := comparison_solid hcondition 0 false rest
  have hread : comparison 0 false ((arrayLengthText column condition).toList ++ rest) =
      ((arrayLengthText column condition).toList, rest) := by
    simp [arrayLengthText, comparison, hcolumn, hlast, hend]
  rw [operand_comparison holds frame outer _ _ _ hread, String.ofList_toList]
  · rfl
  · simp [arrayLengthText]
  · simp [arrayLengthText]
  · simp [arrayLengthText]

end Reading.ReadsAs

/-! ## Combinators -/

/-- The truth of a combinator over conjunctions.  The negation binds to what stands right behind
it: the first operand of the first conjunction. -/
def Combinator.combine : Combinator → List (List Bool) → Bool
  | .and, parts => parts.all (·.all id)
  | .or, parts => parts.any (·.all id)
  | .not, parts =>
      match parts.flatten with
      | [] => true
      | truth :: rest => !truth && rest.all id

namespace Frame

def opened : Combinator → Frame
  | .not => start.negate
  | .and | .or => start

def behind (frame : Frame) : Combinator → Frame
  | .or => frame.alternative
  | .and | .not => frame

def parts (combinator : Combinator) (frame : Frame) : List (List Bool) → Frame
  | [] => frame
  | [part] => frame.operands part
  | part :: next :: rest =>
      parts combinator ((frame.operands part).behind combinator) (next :: rest)

theorem parts_eq_operands {combinator : Combinator}
    (hcombinator : ∀ frame : Frame, frame.behind combinator = frame) (frame : Frame)
    (conjunctions : List (List Bool)) :
    frame.parts combinator conjunctions = frame.operands conjunctions.flatten := by
  induction conjunctions generalizing frame with
  | nil => rfl
  | cons part rest ih =>
      have hrest := ih (frame.operands part)
      rw [List.flatten_cons, operands_append, ← hrest]
      cases rest with
      | nil => rfl
      | cons next rest => rw [parts, hcombinator]

theorem value_parts_or {frame : Frame} (hcurrent : frame.current = true)
    (hnegated : frame.isNegated = false) {conjunctions : List (List Bool)}
    (hne : conjunctions ≠ []) :
    (frame.parts .or conjunctions).value =
      (frame.alternatives || conjunctions.any (·.all id)) := by
  induction conjunctions generalizing frame with
  | nil => exact absurd rfl hne
  | cons part rest ih =>
      have hpart := operands_of_not_negated hnegated part
      rw [hcurrent, Bool.true_and] at hpart
      cases rest with
      | nil =>
          rw [parts, hpart]
          simp [value]
      | cons next rest =>
          have hbehind : ((frame.operands part).behind .or).isNegated = false := by
            rw [hpart]
            exact hnegated
          rw [parts, ih rfl hbehind (List.cons_ne_nil next rest), hpart]
          simp [behind, alternative, value, Bool.or_assoc]

theorem value_parts (combinator : Combinator) {conjunctions : List (List Bool)}
    (hne : conjunctions ≠ []) :
    ((opened combinator).parts combinator conjunctions).value =
      combinator.combine conjunctions := by
  cases combinator with
  | and =>
      rw [parts_eq_operands fun _ => rfl, opened, operands_of_not_negated rfl]
      simp [value, start, Combinator.combine, List.all_flatten]
  | or =>
      rw [opened, value_parts_or rfl rfl hne]
      rfl
  | not =>
      rw [parts_eq_operands fun _ => rfl, opened, Combinator.combine]
      cases conjunctions.flatten with
      | nil => rfl
      | cons truth rest =>
          rw [operands_cons, operands_of_not_negated rfl]
          simp [value, negate, start, operand]

end Frame

namespace Reading.ReadsAs

variable {holds : String → Bool}

theorem operator_separator (frame : Frame) (outer : List Frame) (combinator : Combinator)
    (rest : List Char) :
    operator holds frame outer (combinator.separator.toList ++ rest) =
      operand holds (frame.behind combinator) outer rest := by
  cases combinator with
  | and => exact operator.eq_4 holds frame outer rest
  | not => exact operator.eq_4 holds frame outer rest
  | or => exact operator.eq_5 holds frame outer rest

theorem boundary_separator (combinator : Combinator) (rest : List Char) :
    Boundary (combinator.separator.toList ++ rest) := by
  cases combinator with
  | and => exact boundary_and rest
  | not => exact boundary_and rest
  | or => exact boundary_or rest

abbrev Each (holds : String → Bool) : List String → List (List Bool) → Prop :=
  List.Forall₂ fun text truths => ReadsAs holds text.toList truths

theorem joined {combinator : Combinator} {texts : List String} {parts : List (List Bool)}
    (hparts : Each holds texts parts) (hne : texts ≠ []) (frame : Frame) (outer : List Frame)
    {rest : List Char} (hrest : Boundary rest) :
    operand holds frame outer ((Text.joined combinator.separator texts).toList ++ rest) =
      operator holds (frame.parts combinator parts) outer rest := by
  -- every part is read from the frame that the parts in front of it leave
  induction hparts generalizing frame with
  | nil => exact absurd rfl hne
  | @cons text part others otherParts htext hothers ih =>
      cases hothers with
      | nil => exact htext frame outer rest hrest
      | @cons next nextPart others otherParts hnext hothers =>
          have hboundary := boundary_separator combinator
            ((Text.joined combinator.separator (next :: others)).toList ++ rest)
          rw [Text.joined_cons_cons, String.toList_append, String.toList_append,
            List.append_assoc, List.append_assoc, htext frame outer _ hboundary,
            operator_separator, ih (List.cons_ne_nil next others), Frame.parts]

theorem enclose (combinator : Combinator) {texts : List String} {parts : List (List Bool)}
    (hparts : Each holds texts parts) (hne : texts ≠ []) :
    ReadsAs holds (combinator.enclose texts).toList [combinator.combine parts] := by
  have hpartsNe : parts ≠ [] := by
    rintro rfl
    cases hparts
    exact hne rfl
  intro frame outer rest hrest
  have hopened : operand holds frame outer ((combinator.enclose texts).toList ++ rest) =
      operand holds (Frame.opened combinator) (frame :: outer)
        ((Text.joined combinator.separator texts).toList ++ ')' :: rest) := by
    cases combinator with
    | and => simp [Combinator.enclose, operand, Frame.opened]
    | or => simp [Combinator.enclose, operand, Frame.opened]
    | not => simp [Combinator.enclose, operand, Frame.opened]
  rw [hopened, joined hparts hne _ _ (boundary_closing rest), operator,
    Frame.value_parts combinator hpartsNe]
  rfl

theorem comparison {column : Column} (hqualifier : IsWord column.qualifier)
    (hname : IsWord column.name) (operator : Operator) (first : Nat) :
    ReadsAs holds (comparisonText column operator first).toList
      [comparisonTruth holds column operator first] := by
  by_cases hempty : operator = .isEmpty
  · subst hempty
    have hlength : ReadsAs holds (arrayLengthText column "=0").toList
        [holds (arrayLengthText column "=0")] :=
      arrayLength hqualifier hname (by decide)
    have hnull : ReadsAs holds (comparisonText column .isNull first).toList
        [holds (comparisonText column .isNull first)] :=
      compare hqualifier hname (by decide) (by decide) first
    have htext : comparisonText column .isEmpty first =
        Combinator.or.enclose
          [arrayLengthText column "=0", comparisonText column .isNull first] := by
      have hnullText := comparisonText_eq column .isNull first (by decide) (by decide)
      rw [comparisonText_isEmpty, hnullText, ← String.toList_inj]
      simp [arrayLengthText, Combinator.enclose, Combinator.separator, Text.joined_cons_cons,
        Operator.sql, Operator.arity, Arity.operandText]
    have hboth := enclose .or (.cons hlength (.cons hnull .nil)) (List.cons_ne_nil _ _)
    rw [← htext] at hboth
    simpa [Combinator.combine, comparisonTruth] using hboth
  · have htruth : comparisonTruth holds column operator first =
        holds (comparisonText column operator first) := by
      unfold comparisonTruth
      split
      · exact absurd rfl hempty
      · rfl
    rw [htruth]
    by_cases hnotEmpty : operator = .isNotEmpty
    · subst hnotEmpty
      have htext : comparisonText column .isNotEmpty first = arrayLengthText column ">0" := by
        rw [comparisonText_isNotEmpty]
        simp [arrayLengthText, String.append_assoc]
      rw [htext]
      exact arrayLength hqualifier hname (by decide)
    · exact compare hqualifier hname hempty hnotEmpty first

end Reading.ReadsAs

end FilterQuery
