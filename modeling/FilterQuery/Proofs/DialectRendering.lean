import FilterQuery.Proofs.PositionalRendering

/-!
# One statement in two dialects

The positional text of a query is written from the pieces of its named text, and only the
placeholders that have a parameter are written anew.  What is written does not depend on the dialect
up to the spelling of a numbered placeholder, and the clause that limits the rows stands behind a
blank, where it changes no piece in front of it.  This holds for any clause text and any parameters.
-/

namespace FilterQuery

open SqlPiece

namespace SqlPiece

theorem scan_append_section {text final : String} (hsection : IsSection final)
    (hcolon : ':' ∉ final.toList) :
    scan (text ++ final).toList = scan text.toList ++ final.toList.map .char := by
  have hplain := scan_append_of_notMem hcolon []
  rw [List.append_nil, scan, List.append_nil] at hplain
  rw [String.toList_append, ← hplain]
  rcases hsection with rfl | ⟨more, htext⟩
  · simp [scan]
  · rw [htext, scan_append_separator (by decide)]

end SqlPiece

/-! ## Positional tokens -/

/-- A part of a positional text: a character of the named text, a placeholder by its number, or a
text that stands between placeholders or for a list without items. -/
inductive PositionalToken
  | copied (c : Char)
  | generated (index : Nat)
  | filler (text : String)
  deriving DecidableEq, Repr

namespace PositionalToken

/-- The characters of a token, where numbered placeholders are spelled by `mark`. -/
def chars (mark : Nat → String) : PositionalToken → List Char
  | .copied c => [c]
  | .generated index => (mark index).toList
  | .filler text => text.toList

def index? : PositionalToken → Option Nat
  | .generated index => some index
  | .copied _ | .filler _ => none

/-- The placeholders of `count` values, the first of which has this number, or a query without rows
if there are none. -/
def listing : Nat → Nat → List PositionalToken
  | _, 0 => [.filler "SELECT NULL WHERE 1=0"]
  | first, 1 => [.generated first]
  | first, count + 2 => .generated first :: .filler ", " :: listing (first + 1) (count + 1)

theorem filterMap_index?_listing (first count : Nat) :
    (listing first count).filterMap index? = List.range' first count := by
  fun_induction listing first count with
  | case1 first => rfl
  | case2 first => rfl
  | case3 first count ih =>
      rw [List.range'_succ, ← ih]
      rfl

theorem flatMap_chars_listing (backend : Backend) (first count : Nat) :
    (listing first count).flatMap (chars backend.placeholder) =
      (PositionalSql.placeholders backend first count).toList := by
  fun_induction listing first count with
  | case1 first => simp [chars, PositionalSql.placeholders, PositionalSql.emptyList]
  | case2 first => simp [chars, PositionalSql.placeholders]
  | case3 first count ih =>
      have hlonger : PositionalSql.placeholders backend first (count + 2) =
          backend.placeholder first ++ ", " ++
            PositionalSql.placeholders backend (first + 1) (count + 1) := rfl
      rw [List.flatMap_cons, List.flatMap_cons, ih, hlonger]
      simp [chars]

theorem flatMap_chars_copied (mark : Nat → String) (text : List Char) :
    (text.map copied).flatMap (chars mark) = text := by
  induction text with
  | nil => rfl
  | cons c rest ih =>
      rw [List.map_cons, List.flatMap_cons, ih]
      rfl

theorem filterMap_index?_copied (text : List Char) :
    (text.map copied).filterMap index? = [] := by
  rw [List.filterMap_map, List.filterMap_eq_nil_iff]
  intro c _
  rfl

end PositionalToken

/-- The value of the parameter that a placeholder stands for. -/
def SqlPiece.value? (parameters : Parameters) : SqlPiece → Option Json
  | .char _ => none
  | .placeholder _ name => Named.get? (String.ofList name) parameters

/-- The tokens are the pieces in their order: a piece without a parameter is copied as it is, and a
placeholder with one is replaced by the placeholders of the values bound for it. -/
inductive Rewrites (parameters : Parameters) :
    List SqlPiece → List PositionalToken → List Json → Prop
  | nil : Rewrites parameters [] [] []
  | copy {piece : SqlPiece} {pieces : List SqlPiece} {tokens : List PositionalToken}
      {binds : List Json} (hfree : piece.value? parameters = none)
      (hrest : Rewrites parameters pieces tokens binds) :
      Rewrites parameters (piece :: pieces) (piece.chars.map .copied ++ tokens) binds
  | bind {isSpread : Bool} {name : List Char} {value : Json} {pieces : List SqlPiece}
      {tokens : List PositionalToken} {binds : List Json} (first : Nat)
      (hvalue : Named.get? (String.ofList name) parameters = some value)
      (hrest : Rewrites parameters pieces tokens binds) :
      Rewrites parameters (.placeholder isSpread name :: pieces)
        (PositionalToken.listing first (PositionalSql.boundBy isSpread value).length ++ tokens)
        (PositionalSql.boundBy isSpread value ++ binds)

/-- The tokens are the same for all backends, and their placeholders are numbered in a row. -/
theorem exists_rewrites (parameters : Parameters) (pieces : List SqlPiece) (bound : Nat) :
    ∃ tokens binds, Rewrites parameters pieces tokens binds ∧
      tokens.filterMap PositionalToken.index? = List.range' (bound + 1) binds.length ∧
      ∀ (backend : Backend) (tail : List Char),
        PositionalSql.ofPieces backend parameters (pieces ++ tail.map .char) bound =
          (tokens.flatMap (PositionalToken.chars backend.placeholder) ++ tail, binds) := by
  induction pieces generalizing bound with
  | nil =>
      refine ⟨[], [], .nil, rfl, ?_⟩
      intro backend tail
      have hplain := PositionalSql.ofPieces_plain_append backend parameters tail [] bound
      simpa [PositionalSql.ofPieces] using hplain
  | cons piece rest ih =>
      cases hvalue : piece.value? parameters with
      | none =>
          obtain ⟨tokens, binds, hrewrites, hnumbers, htext⟩ := ih bound
          refine ⟨_, binds, .copy hvalue hrewrites, ?_, ?_⟩
          · rw [List.filterMap_append, PositionalToken.filterMap_index?_copied, hnumbers]
            rfl
          · intro backend tail
            rw [List.flatMap_append, PositionalToken.flatMap_chars_copied, List.cons_append]
            cases piece with
            | char c =>
                rw [PositionalSql.ofPieces, htext]
                rfl
            | placeholder isSpread name =>
                rw [SqlPiece.value?] at hvalue
                simp only [PositionalSql.ofPieces, hvalue, htext, List.append_assoc]
      | some value =>
          cases piece with
          | char c => cases hvalue
          | placeholder isSpread name =>
              -- The pieces behind this placeholder are numbered after the values bound for it.
              obtain ⟨tokens, binds, hrewrites, hnumbers, htext⟩ :=
                ih (bound + (PositionalSql.boundBy isSpread value).length)
              refine ⟨_, _, .bind (bound + 1) hvalue hrewrites, ?_, ?_⟩
              · rw [List.filterMap_append, PositionalToken.filterMap_index?_listing, hnumbers,
                  List.length_append, ← List.range'_append_1]
                congr 2
                omega
              · intro backend tail
                rw [SqlPiece.value?] at hvalue
                rw [List.flatMap_append, PositionalToken.flatMap_chars_listing]
                simp only [List.cons_append, PositionalSql.ofPieces, hvalue, htext,
                  List.append_assoc]

/-! ## Queries in two dialects -/

namespace Select

theorem positional_eq_map (select : Select) (backend : Backend) :
    select.positional backend =
      (select.sql backend).map (PositionalSql.ofNamed backend select.parameters) := by
  rw [Select.positional]
  cases select.sql backend <;> rfl

/-- A query has a text up to its window in all dialects or in none. -/
theorem sql_cases (select : Select) :
    (∃ path, ∀ backend, select.sql backend = .error (.unresolvedJoin path)) ∨
      ∃ body, ∀ backend, select.sql backend = .ok (body ++ select.pagingSql backend) := by
  cases hjoins : joinsSql select.joins with
  | error problem =>
      obtain ⟨path, rfl⟩ := unresolved_of_joinsSql_error hjoins
      left
      refine ⟨path, ?_⟩
      intro backend
      rw [sql_eq_map, hjoins]
      rfl
  | ok joins =>
      right
      refine ⟨"SELECT " ++ select.rootAlias ++ ".* FROM " ++ select.rootTable ++ " " ++
        select.rootAlias ++ joins ++ select.whereSql ++ select.orderSql, ?_⟩
      intro backend
      rw [sql_eq_map, hjoins]
      rfl

theorem pagingSql_postgres (select : Select) :
    select.pagingSql .postgres =
      (select.limit.elim "" fun limit => " LIMIT " ++ toString limit) ++
        select.offset.elim "" fun offset => " OFFSET " ++ toString offset := by
  unfold pagingSql Backend.limitOffset
  cases select.limit with
  | none => cases select.offset <;> simp [← String.append_assoc]
  | some limit => cases select.offset <;> simp [← String.append_assoc]

theorem pagingSql_sqlite (select : Select) :
    select.pagingSql .sqlite =
      (if select.limit = none ∧ select.offset ≠ none then " LIMIT -1" else "") ++
        select.pagingSql .postgres := by
  unfold pagingSql Backend.limitOffset
  cases select.limit with
  | none =>
      cases select.offset with
      | none => rfl
      | some offset =>
          simp only [ne_eq, reduceCtorEq, not_false_eq_true, and_self, if_true]
          rw [← String.append_assoc, ← String.append_assoc]
          rfl
  | some limit => cases select.offset <;> simp

end Select

/-- In any state a query fails in both dialects with the same join, or both texts are written from
the same tokens and the same values.  The placeholders are numbered from one on in the order of the
values, everything else is copied from the named text, and the windows differ only where an offset
stands without a limit. -/
theorem positional_dialects_agree (select : Select) :
    let limitText := select.limit.elim "" fun limit => " LIMIT " ++ toString limit
    let offsetText := select.offset.elim "" fun offset => " OFFSET " ++ toString offset
    let noLimit := if select.limit = none ∧ select.offset ≠ none then " LIMIT -1" else ""
    let window : Backend → String
      | .postgres => limitText ++ offsetText
      | .sqlite => noLimit ++ (limitText ++ offsetText)
    let mark : Backend → Nat → String
      | .postgres, index => "$" ++ toString index
      | .sqlite, _ => "?"
    (∃ path, ∀ backend, select.positional backend = .error (.unresolvedJoin path)) ∨
      ∃ (pieces : List SqlPiece) (tokens : List PositionalToken) (binds : List Json),
        Rewrites select.parameters pieces tokens binds ∧
        tokens.filterMap PositionalToken.index? = List.range' 1 binds.length ∧
        ∀ backend,
          let named := pieces.flatMap SqlPiece.chars ++ (window backend).toList
          select.sql backend = .ok (String.ofList named) ∧
          SqlPiece.scan named = pieces ++ (window backend).toList.map .char ∧
          select.positional backend =
            .ok ⟨String.ofList (tokens.flatMap (PositionalToken.chars (mark backend)) ++
              (window backend).toList), binds⟩ := by
  intro limitText offsetText noLimit window mark
  have hwindow (backend : Backend) : window backend = select.pagingSql backend := by
    cases backend with
    | postgres => exact select.pagingSql_postgres.symm
    | sqlite => rw [select.pagingSql_sqlite, select.pagingSql_postgres]
  have hmark (backend : Backend) : mark backend = backend.placeholder := by
    cases backend <;> rfl
  rcases select.sql_cases with ⟨path, herror⟩ | ⟨body, hbody⟩
  · left
    refine ⟨path, ?_⟩
    intro backend
    rw [select.positional_eq_map, herror]
    rfl
  · right
    obtain ⟨tokens, binds, hrewrites, hnumbers, htext⟩ :=
      exists_rewrites select.parameters (SqlPiece.scan body.toList) 0
    refine ⟨SqlPiece.scan body.toList, tokens, binds, hrewrites, hnumbers, ?_⟩
    intro backend
    have hscan : SqlPiece.scan (body ++ select.pagingSql backend).toList =
        SqlPiece.scan body.toList ++ (select.pagingSql backend).toList.map .char :=
      scan_append_section (select.isSection_pagingSql backend)
        (select.colon_notMem_pagingSql backend)
    simp only [hwindow, hmark, flatMap_chars_scan, ← String.toList_append, String.ofList_toList]
    refine ⟨hbody backend, hscan, ?_⟩
    rw [select.positional_eq_map, hbody, Except.map, PositionalSql.ofNamed, hscan, htext]

end FilterQuery
