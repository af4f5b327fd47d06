import FilterQuery.Proofs.ClauseColumns
import FilterQuery.Proofs.ParameterNumbering
import FilterQuery.Sql.Placeholder

/-!
# Scanning for placeholders

The pieces of a text spell the text.  A placeholder written into a text is found again if nothing
behind it continues its name, and a text without colons holds no placeholder.  The clause of a
filter is made of such texts, so the scan finds the placeholders that the clause was given, in their
order, as long as no column brings a colon of its own.
-/

namespace FilterQuery

namespace SqlPiece

/-! ## The pieces spell the text -/

theorem chars_of_identifier? {chars name after : List Char}
    (hname : identifier? chars = some (name, after)) : name ++ after = chars := by
  cases chars with
  | nil => simp [identifier?] at hname
  | cons c rest =>
      simp only [identifier?] at hname
      split at hname
      · simp only [Option.some.injEq, Prod.mk.injEq] at hname
        obtain ⟨rfl, rfl⟩ := hname
        rw [List.cons_append, List.takeWhile_append_dropWhile]
      · simp at hname

theorem chars_of_placeholder? {rest after : List Char} {piece : SqlPiece}
    (hpiece : placeholder? rest = some (piece, after)) : piece.chars ++ after = ':' :: rest := by
  unfold placeholder? at hpiece
  split at hpiece
  · simp only [Option.map_eq_some_iff, Prod.exists, Prod.mk.injEq] at hpiece
    obtain ⟨name, end_, hname, rfl, rfl⟩ := hpiece
    simp [chars, ← chars_of_identifier? hname]
  · simp only [Option.map_eq_some_iff, Prod.exists, Prod.mk.injEq] at hpiece
    obtain ⟨name, end_, hname, rfl, rfl⟩ := hpiece
    simp [chars, ← chars_of_identifier? hname]

theorem flatMap_chars_scan (text : List Char) : (scan text).flatMap chars = text := by
  fun_induction scan text with
  | case1 => rfl
  | case2 rest piece after hpiece ih =>
      rw [List.flatMap_cons, ih]
      exact chars_of_placeholder? hpiece
  | case3 rest hnone ih =>
      rw [List.flatMap_cons, ih]
      rfl
  | case4 c rest hcolon ih =>
      rw [List.flatMap_cons, ih]
      rfl

theorem flatMap_chars_plain (text : List Char) :
    (text.map SqlPiece.char).flatMap chars = text := by
  induction text with
  | nil => rfl
  | cons c rest ih =>
      rw [List.map_cons, List.flatMap_cons, ih]
      rfl

/-! ## Plain text and placeholders are found again -/

theorem scan_append_of_notMem {chars : List Char} (hcolon : ':' ∉ chars) (rest : List Char) :
    scan (chars ++ rest) = chars.map .char ++ scan rest := by
  induction chars with
  | nil => rfl
  | cons c more ih =>
      simp only [List.mem_cons, not_or] at hcolon
      have hmore := ih hcolon.2
      rw [List.cons_append, List.map_cons, List.cons_append, ← hmore, scan]
      exact fun heq => hcolon.1 heq.symm

/-- The text does not continue an identifier that stands before it. -/
def EndsIdentifier (rest : List Char) : Prop :=
  ∀ c more, rest = c :: more → isIdentifierChar c = false

def IsIdentifier (name : List Char) : Prop :=
  ∃ c more, name = c :: more ∧ isIdentifierStart c = true ∧
    ∀ d ∈ more, isIdentifierChar d = true

theorem endsIdentifier_nil : EndsIdentifier [] := by
  intro c more heq
  cases heq

theorem endsIdentifier_cons {c : Char} (hc : isIdentifierChar c = false) (rest : List Char) :
    EndsIdentifier (c :: rest) := by
  intro d more heq
  rw [← (List.cons.inj heq).1]
  exact hc

theorem takeWhile_append_of_endsIdentifier {more rest : List Char}
    (hmore : ∀ d ∈ more, isIdentifierChar d = true) (hrest : EndsIdentifier rest) :
    (more ++ rest).takeWhile isIdentifierChar = more ∧
      (more ++ rest).dropWhile isIdentifierChar = rest := by
  rw [List.takeWhile_append_of_pos hmore, List.dropWhile_append_of_pos hmore]
  cases rest with
  | nil => simp
  | cons c rest =>
      have hc : isIdentifierChar c = false := hrest c rest rfl
      simp [hc]

theorem identifier?_append {name rest : List Char} (hname : IsIdentifier name)
    (hrest : EndsIdentifier rest) : identifier? (name ++ rest) = some (name, rest) := by
  obtain ⟨c, more, rfl, hc, hmore⟩ := hname
  obtain ⟨htake, hdrop⟩ := takeWhile_append_of_endsIdentifier hmore hrest
  rw [List.cons_append, identifier?, if_pos hc, htake, hdrop]

theorem scan_placeholder_append {name rest : List Char} (hname : IsIdentifier name)
    (hrest : EndsIdentifier rest) (isSpread : Bool) :
    scan ((SqlPiece.placeholder isSpread name).chars ++ rest) =
      .placeholder isSpread name :: scan rest := by
  have hidentifier := identifier?_append hname hrest
  have hpiece : placeholder? (((if isSpread then ['.', '.', '.'] else []) ++ name) ++ rest) =
      some (.placeholder isSpread name, rest) := by
    cases isSpread with
    | true =>
        simp only [if_true, List.cons_append, List.nil_append, placeholder?, hidentifier,
          Option.map_some]
    | false =>
        -- a name does not begin with a point, so the spread form does not apply
        obtain ⟨c, more, rfl, hc, hmore⟩ := hname
        have hpoint : c ≠ '.' := by
          rintro rfl
          exact absurd hc (by decide)
        simp only [Bool.false_eq_true, if_false, List.nil_append]
        unfold placeholder?
        split
        · next heq =>
          exact absurd (List.cons.inj heq).1 hpoint
        · rw [hidentifier, Option.map_some]
  rw [chars, List.cons_append, scan]
  split
  · next piece after heq =>
    rw [hpiece] at heq
    simp only [Option.some.injEq, Prod.mk.injEq] at heq
    rw [← heq.1, ← heq.2]
  · next hnone =>
    rw [hpiece] at hnone
    simp at hnone

theorem isIdentifier_parameterName (index : Nat) :
    IsIdentifier (parameterName index).toList := by
  refine ⟨'p', "aram".toList ++ Nat.toDigits 10 index, ?_, by decide, ?_⟩
  · simp [parameterName, Nat.toString_eq_repr]
  · intro d hmem
    have hletters : ∀ d ∈ "aram".toList, isIdentifierChar d = true :=
      List.all_eq_true.mp (by decide)
    rcases List.mem_append.mp hmem with hletter | hdigit
    · exact hletters d hletter
    · have hd : d.isDigit = true := Nat.isDigit_of_mem_toDigits (by decide) (by decide) hdigit
      simp [isIdentifierChar, Char.isAlphanum, hd]

/-! ## A text in front of a separator -/

/-- No placeholder reaches over the character. -/
def IsSeparator (c : Char) : Prop :=
  isIdentifierChar c = false ∧ c ≠ '.'

instance (c : Char) : Decidable (IsSeparator c) :=
  inferInstanceAs (Decidable (_ ∧ _))

section

variable {separator : Char} (hseparator : IsSeparator separator) (more : List Char)

include hseparator

theorem takeWhile_append_separator (text : List Char) :
    (text ++ separator :: more).takeWhile isIdentifierChar = text.takeWhile isIdentifierChar ∧
      (text ++ separator :: more).dropWhile isIdentifierChar =
        text.dropWhile isIdentifierChar ++ separator :: more := by
  have hends := hseparator.1
  induction text with
  | nil => simp [hends]
  | cons c rest ih =>
      cases hc : isIdentifierChar c with
      | true => simp [hc, ih]
      | false => simp [hc]

theorem identifier?_append_separator (text : List Char) :
    identifier? (text ++ separator :: more) =
      (identifier? text).map fun (name, after) => (name, after ++ separator :: more) := by
  cases text with
  | nil =>
      have hstart : isIdentifierStart separator = false := by
        have hends := hseparator.1
        simp only [isIdentifierChar, Char.isAlphanum, Bool.or_eq_false_iff] at hends
        simp [isIdentifierStart, hends]
      simp [identifier?, hstart]
  | cons c rest =>
      obtain ⟨htake, hdrop⟩ := takeWhile_append_separator hseparator more rest
      rw [List.cons_append, identifier?, identifier?, htake, hdrop]
      split <;> rfl

omit hseparator in
theorem placeholder?_of_not_spread {text : List Char}
    (hspread : ∀ rest, text ≠ '.' :: '.' :: '.' :: rest) :
    placeholder? text =
      (identifier? text).map fun (name, after) => (.placeholder false name, after) := by
  unfold placeholder?
  split
  next rest => exact absurd rfl (hspread rest)
  next => rfl

theorem placeholder?_append_separator (text : List Char) :
    placeholder? (text ++ separator :: more) =
      (placeholder? text).map fun (piece, after) => (piece, after ++ separator :: more) := by
  by_cases hspread : ∃ rest, text = '.' :: '.' :: '.' :: rest
  · obtain ⟨rest, rfl⟩ := hspread
    simp [placeholder?, identifier?_append_separator hseparator, Function.comp_def]
  · have htext : ∀ rest, text ≠ '.' :: '.' :: '.' :: rest :=
      fun rest heq => hspread ⟨rest, heq⟩
    -- the separator is no point, so three points in front of it would be three points of the text
    have happend : ∀ rest, text ++ separator :: more ≠ '.' :: '.' :: '.' :: rest := by
      intro rest heq
      have hpoint := hseparator.2
      rcases text with _ | ⟨a, _ | ⟨b, _ | ⟨c, after⟩⟩⟩
      · simp [hpoint] at heq
      · simp [hpoint] at heq
      · simp [hpoint] at heq
      · simp only [List.cons_append, List.cons.injEq] at heq
        obtain ⟨rfl, rfl, rfl, -⟩ := heq
        exact htext after rfl
    rw [placeholder?_of_not_spread htext, placeholder?_of_not_spread happend,
      identifier?_append_separator hseparator, Option.map_map, Option.map_map]
    rfl

/-- No piece reaches over a separator. -/
theorem scan_append_separator (text : List Char) :
    scan (text ++ separator :: more) = scan text ++ scan (separator :: more) := by
  fun_induction scan text with
  | case1 => rfl
  | case2 rest piece after hpiece ih =>
      have hfound := placeholder?_append_separator hseparator more rest
      rw [hpiece, Option.map_some] at hfound
      rw [List.cons_append, scan]
      split
      next found behind heq =>
        rw [hfound] at heq
        cases heq
        rw [ih, List.cons_append]
      next heq =>
        rw [hfound] at heq
        cases heq
  | case3 rest hnone ih =>
      have hmissing := placeholder?_append_separator hseparator more rest
      rw [hnone, Option.map_none] at hmissing
      rw [List.cons_append, scan]
      split
      next found behind heq =>
        rw [hmissing] at heq
        cases heq
      next => rw [ih, List.cons_append]
  | case4 c rest hcolon ih =>
      rw [List.cons_append, scan]
      · rw [ih, List.cons_append]
      · exact hcolon

end

def reference? : SqlPiece → Option (Bool × List Char)
  | .char _ => none
  | .placeholder isSpread name => some (isSpread, name)

theorem filterMap_reference?_plain (chars : List Char) :
    (chars.map SqlPiece.char).filterMap reference? = [] := by
  rw [List.filterMap_map, List.filterMap_eq_nil_iff]
  intro c _
  rfl

theorem notMem_plain {chars : List Char} (hcolon : ':' ∉ chars) :
    SqlPiece.char ':' ∉ chars.map SqlPiece.char := by
  intro hmem
  obtain ⟨c, hc, heq⟩ := List.mem_map.mp hmem
  cases heq
  exact hcolon hc

end SqlPiece

open SqlPiece

/-! ## Texts with given placeholders -/

def references (placeholders : List (Bool × Nat)) : List (Bool × List Char) :=
  placeholders.map fun (isSpread, index) => (isSpread, (parameterName index).toList)

/-- In front of everything that does not continue an identifier, the text is read as plain
characters, none of them a colon, and as these placeholders in their order. -/
def HasPlaceholders (text : List Char) (placeholders : List (Bool × Nat)) : Prop :=
  ∃ pieces,
    (∀ rest, EndsIdentifier rest → scan (text ++ rest) = pieces ++ scan rest) ∧
      .char ':' ∉ pieces ∧ pieces.filterMap reference? = references placeholders

namespace HasPlaceholders

variable {text more : List Char} {placeholders others : List (Bool × Nat)}

theorem plain (hcolon : ':' ∉ text) : HasPlaceholders text [] :=
  ⟨text.map .char, fun rest _ => scan_append_of_notMem hcolon rest, notMem_plain hcolon,
    filterMap_reference?_plain text⟩

theorem placeholder (isSpread : Bool) (index : Nat) :
    HasPlaceholders
      (SqlPiece.placeholder isSpread (parameterName index).toList).chars [(isSpread, index)] := by
  refine ⟨[.placeholder isSpread (parameterName index).toList], ?_, ?_, rfl⟩
  · intro rest hrest
    exact scan_placeholder_append (isIdentifier_parameterName index) hrest isSpread
  · simp

/-- The second text must keep apart from a name at the end of the first. -/
theorem append (htext : HasPlaceholders text placeholders) (hmore : HasPlaceholders more others)
    (hends : ∀ rest, EndsIdentifier rest → EndsIdentifier (more ++ rest)) :
    HasPlaceholders (text ++ more) (placeholders ++ others) := by
  obtain ⟨pieces, hpieces, hcolon, hreferences⟩ := htext
  obtain ⟨morePieces, hmorePieces, hmoreColon, hmoreReferences⟩ := hmore
  refine ⟨pieces ++ morePieces, ?_, ?_, ?_⟩
  · intro rest hrest
    rw [List.append_assoc, hpieces _ (hends rest hrest), hmorePieces rest hrest,
      List.append_assoc]
  · rw [List.mem_append]
    exact fun hmem => hmem.elim hcolon hmoreColon
  · rw [List.filterMap_append, hreferences, hmoreReferences, references, references, references,
      List.map_append]

theorem plain_append (hcolon : ':' ∉ text) (hmore : HasPlaceholders more others) :
    HasPlaceholders (text ++ more) others := by
  obtain ⟨pieces, hpieces, hmoreColon, hreferences⟩ := hmore
  refine ⟨text.map .char ++ pieces, ?_, ?_, ?_⟩
  · intro rest hrest
    rw [List.append_assoc, scan_append_of_notMem hcolon, hpieces rest hrest, List.append_assoc]
  · rw [List.mem_append]
    exact fun hmem => hmem.elim (notMem_plain hcolon) hmoreColon
  · rw [List.filterMap_append, filterMap_reference?_plain, List.nil_append, hreferences]

/-- A text that begins with a character that no identifier has keeps apart. -/
theorem append_of_head {c : Char} (htext : HasPlaceholders text placeholders)
    (hmore : HasPlaceholders (c :: more) others) (hc : isIdentifierChar c = false) :
    HasPlaceholders (text ++ c :: more) (placeholders ++ others) := by
  apply htext.append hmore
  intro rest _
  exact endsIdentifier_cons hc _

theorem eq_nil_of_nil (hempty : HasPlaceholders [] placeholders) : placeholders = [] := by
  obtain ⟨pieces, hpieces, -, hreferences⟩ := hempty
  have hscan := hpieces [] endsIdentifier_nil
  rw [List.append_nil, scan, List.append_nil] at hscan
  rw [← hscan, List.filterMap_nil] at hreferences
  exact List.map_eq_nil_iff.mp hreferences.symm

/-- Joining keeps the placeholders of the parts if the separator begins with a blank. -/
theorem joined_cons {separator head : String} {rest : List String}
    (hseparator : separator.toList = ' ' :: more) (hcolon : ':' ∉ more)
    (hhead : HasPlaceholders head.toList placeholders)
    (hrest : HasPlaceholders (Text.joined separator rest).toList others) :
    HasPlaceholders (Text.joined separator (head :: rest)).toList (placeholders ++ others) := by
  cases rest with
  | nil =>
      rw [Text.joined_nil] at hrest
      rw [eq_nil_of_nil hrest, List.append_nil, Text.joined_singleton]
      exact hhead
  | cons next rest =>
      have hblank : ':' ∉ ' ' :: more := by
        simpa using hcolon
      rw [Text.joined_cons_cons, String.toList_append, String.toList_append, hseparator,
        List.append_assoc, List.cons_append]
      exact hhead.append_of_head (plain_append hblank hrest) (by decide)

end HasPlaceholders

/-! ## Clauses have their placeholders -/

def Arity.operandText (arity : Arity) (first : Nat) : String :=
  match arity with
  | .nullary => ""
  | .unary => " :" ++ parameterName first
  | .list => " (:..." ++ parameterName first ++ ")"
  | .pair => " :" ++ parameterName first ++ " AND :" ++ parameterName (first + 1)

theorem Arity.operandText_hasPlaceholders (arity : Arity) (operator : Operator) (first : Nat)
    (harity : operator.arity = arity) :
    HasPlaceholders (arity.operandText first).toList (comparisonPlaceholders operator first) := by
  have hvalue (index : Nat) : HasPlaceholders (':' :: (parameterName index).toList)
      [(false, index)] := .placeholder false index
  unfold comparisonPlaceholders
  rw [harity]
  cases arity with
  | nullary => exact .plain (by simp [operandText])
  | unary =>
      have htext : (Arity.unary.operandText first).toList =
          " ".toList ++ ':' :: (parameterName first).toList := by
        simp [operandText]
      rw [htext]
      exact .plain_append (by decide) (hvalue first)
  | list =>
      have hitems : HasPlaceholders (':' :: ("...".toList ++ (parameterName first).toList))
          [(true, first)] := .placeholder true first
      have htext : (Arity.list.operandText first).toList =
          " (".toList ++ (':' :: ("...".toList ++ (parameterName first).toList) ++ [')']) := by
        simp [operandText]
      have hclosing : HasPlaceholders [')'] [] := .plain (by decide)
      rw [htext]
      exact .plain_append (by decide) (hitems.append_of_head hclosing (by decide))
  | pair =>
      have htext : (Arity.pair.operandText first).toList =
          " ".toList ++ (':' :: (parameterName first).toList ++
            ' ' :: ("AND ".toList ++ ':' :: (parameterName (first + 1)).toList)) := by
        simp [operandText]
      have hsecond : HasPlaceholders
          (' ' :: ("AND ".toList ++ ':' :: (parameterName (first + 1)).toList))
          [(false, first + 1)] := by
        have hand : ':' ∉ " AND ".toList := by
          decide
        exact .plain_append hand (hvalue (first + 1))
      rw [htext]
      exact .plain_append (by decide) ((hvalue first).append_of_head hsecond (by decide))

theorem comparisonText_isEmpty (column : Column) (first : Nat) :
    comparisonText column .isEmpty first =
      "(array_length(" ++ column.text ++ ",1)=0 OR " ++ column.text ++ " IS NULL)" := rfl

theorem comparisonText_isNotEmpty (column : Column) (first : Nat) :
    comparisonText column .isNotEmpty first = "array_length(" ++ column.text ++ ",1)>0" := rfl

theorem comparisonText_eq (column : Column) (operator : Operator) (first : Nat)
    (hempty : operator ≠ .isEmpty) (hnotEmpty : operator ≠ .isNotEmpty) :
    comparisonText column operator first =
      column.text ++ " " ++ operator.sql ++ operator.arity.operandText first := by
  unfold comparisonText
  split
  · exact absurd rfl hempty
  · exact absurd rfl hnotEmpty
  · rfl

def Column.HasColon (column : Column) : Prop :=
  ':' ∈ column.text.toList

theorem comparisonText_hasPlaceholders (column : Column) (operator : Operator) (first : Nat)
    (hcolon : ¬ column.HasColon) :
    HasPlaceholders (comparisonText column operator first).toList
      (comparisonPlaceholders operator first) := by
  unfold Column.HasColon at hcolon
  by_cases hempty : operator = .isEmpty
  · subst hempty
    rw [comparisonText_isEmpty]
    exact .plain (by simp [hcolon])
  by_cases hnotEmpty : operator = .isNotEmpty
  · subst hnotEmpty
    rw [comparisonText_isNotEmpty]
    exact .plain (by simp [hcolon])
  have hoperator : ':' ∉ operator.sql.toList := by
    cases operator <;> decide
  rw [comparisonText_eq column operator first hempty hnotEmpty, String.toList_append]
  apply HasPlaceholders.plain_append
  · simp [hcolon, hoperator]
  · exact Arity.operandText_hasPlaceholders operator.arity operator first rfl

theorem Combinator.enclose_hasPlaceholders {combinator : Combinator} {clauses : List String}
    {placeholders : List (Bool × Nat)}
    (hjoined : HasPlaceholders (Text.joined combinator.separator clauses).toList placeholders) :
    HasPlaceholders (combinator.enclose clauses).toList placeholders := by
  have hclosing : HasPlaceholders [')'] [] := .plain (by decide)
  have hclosed := hjoined.append_of_head hclosing (by decide)
  rw [List.append_nil] at hclosed
  have hopened (opening : String) (hopening : ':' ∉ opening.toList) :
      HasPlaceholders (opening ++ Text.joined combinator.separator clauses ++ ")").toList
        placeholders := by
    rw [String.toList_append, String.toList_append, List.append_assoc]
    exact .plain_append hopening hclosed
  cases combinator with
  | not => exact hopened "(NOT " (by decide)
  | and => exact hopened "(" (by decide)
  | or => exact hopened "(" (by decide)

theorem Combinator.separator_toList (combinator : Combinator) :
    ∃ more, combinator.separator.toList = ' ' :: more ∧ ':' ∉ more := by
  cases combinator with
  | and => exact ⟨"AND ".toList, by decide, by decide⟩
  | not => exact ⟨"AND ".toList, by decide, by decide⟩
  | or => exact ⟨"OR ".toList, by decide, by decide⟩

mutual

theorem Condition.text_hasPlaceholders :
    (condition : Condition) → (∀ column ∈ condition.columns, ¬ column.HasColon) →
      HasPlaceholders condition.text.toList condition.placeholders
  | .compare column operator first, hcolons => by
      rw [Condition.text, Condition.placeholders]
      apply comparisonText_hasPlaceholders
      exact hcolons column (by simp [Condition.columns])
  | .group combinator clauses, hcolons => by
      rw [Condition.text, Condition.placeholders]
      rw [Condition.columns] at hcolons
      exact Combinator.enclose_hasPlaceholders
        (Clause.texts_hasPlaceholders combinator clauses hcolons)
termination_by structural condition => condition

theorem Clause.conditionTexts_hasPlaceholders :
    (clause : List Condition) → (∀ column ∈ Clause.columns clause, ¬ column.HasColon) →
      HasPlaceholders (Text.joined " AND " (Clause.conditionTexts clause)).toList
        (Clause.placeholders clause)
  | [], _ => .plain (by simp [Clause.conditionTexts])
  | condition :: rest, hcolons => by
      rw [Clause.columns] at hcolons
      rw [Clause.conditionTexts, Clause.placeholders]
      exact .joined_cons (by decide) (by decide : ':' ∉ "AND ".toList)
        (condition.text_hasPlaceholders fun column hmem =>
          hcolons column (List.mem_append_left _ hmem))
        (Clause.conditionTexts_hasPlaceholders rest fun column hmem =>
          hcolons column (List.mem_append_right _ hmem))
termination_by structural clause => clause

theorem Clause.texts_hasPlaceholders (combinator : Combinator) :
    (clauses : List (List Condition)) → (∀ column ∈ clausesColumns clauses, ¬ column.HasColon) →
      HasPlaceholders (Text.joined combinator.separator (Clause.texts clauses)).toList
        (clausesPlaceholders clauses)
  | [], _ => .plain (by simp [Clause.texts])
  | clause :: rest, hcolons => by
      obtain ⟨more, hseparator, hcolon⟩ := combinator.separator_toList
      rw [clausesColumns] at hcolons
      rw [Clause.texts, clausesPlaceholders]
      exact .joined_cons hseparator hcolon
        (Clause.conditionTexts_hasPlaceholders clause fun column hmem =>
          hcolons column (List.mem_append_left _ hmem))
        (Clause.texts_hasPlaceholders combinator rest fun column hmem =>
          hcolons column (List.mem_append_right _ hmem))
termination_by structural clauses => clauses

end

/-- The scan finds the placeholders of a clause as long as its columns have no colon. -/
theorem Clause.text_hasPlaceholders (clause : Clause)
    (hcolons : ∀ column ∈ Clause.columns clause, ¬ column.HasColon) :
    HasPlaceholders clause.text.toList (Clause.placeholders clause) :=
  Clause.conditionTexts_hasPlaceholders clause hcolons

end FilterQuery
