import FilterQuery.Proofs.BuilderCalls
import FilterQuery.Proofs.PlaceholderScan
import FilterQuery.Session.Basic

/-!
# Named and positional rendering

The named and the positional form of a query are written from the same pieces.  The scan cuts the
named text at its placeholders, which are numbered from zero on, and the positional text differs
only where a placeholder stood.
-/

namespace FilterQuery

open SqlPiece

/-! ## Slots -/

/-- A placeholder with the value of its parameter and the text up to the next placeholder. -/
structure Slot where
  isSpread : Bool
  value : Json
  trail : List Char

namespace Slot

/-- A spread placeholder takes the items of an array one by one. -/
def binds (slot : Slot) : List Json :=
  match slot.isSpread, slot.value with
  | true, .array items => items
  | _, value => [value]

def pieces : Nat → List Slot → List SqlPiece
  | _, [] => []
  | index, slot :: rest =>
      .placeholder slot.isSpread (parameterName index).toList ::
        (slot.trail.map .char ++ pieces (index + 1) rest)

/-- The text with the placeholders numbered from `index` on. -/
def namedText : Nat → List Slot → List Char
  | _, [] => []
  | index, slot :: rest =>
      (if slot.isSpread then ":...".toList else ":".toList) ++
        ((parameterName index).toList ++ (slot.trail ++ namedText (index + 1) rest))

/-- The mark that a backend puts where the value with this number belongs. -/
def mark : Backend → Nat → String
  | .postgres, index => "$" ++ toString index
  | .sqlite, _ => "?"

/-- What is written for `count` values, the first of which has this number: their marks, or a query
without rows if there are none. -/
def marks (backend : Backend) (first count : Nat) : String :=
  if count = 0 then "SELECT NULL WHERE 1=0"
  else ", ".intercalate ((List.range' first count).map (mark backend))

/-- The text with the marks of a backend, when `bound` values are bound in front of it. -/
def positionalText (backend : Backend) : Nat → List Slot → List Char
  | _, [] => []
  | bound, slot :: rest =>
      (marks backend (bound + 1) slot.binds.length).toList ++
        (slot.trail ++ positionalText backend (bound + slot.binds.length) rest)

theorem binds_eq_boundBy (slot : Slot) :
    slot.binds = PositionalSql.boundBy slot.isSpread slot.value := by
  obtain ⟨isSpread, value, trail⟩ := slot
  cases isSpread <;> cases value <;> rfl

theorem mark_eq_placeholder (backend : Backend) : mark backend = backend.placeholder := by
  funext index
  cases backend <;> rfl

/-- The marks of a slot are the placeholders that a query is rendered with. -/
theorem marks_eq_placeholders (backend : Backend) (first count : Nat) :
    marks backend first count = PositionalSql.placeholders backend first count := by
  rw [marks, PositionalSql.placeholders, PositionalSql.emptyList, mark_eq_placeholder,
    Text.joined_eq_intercalate]

theorem flatMap_chars_pieces (index : Nat) (slots : List Slot) :
    (pieces index slots).flatMap SqlPiece.chars = namedText index slots := by
  induction slots generalizing index with
  | nil => rfl
  | cons slot rest ih =>
      rw [pieces, namedText, List.flatMap_cons, List.flatMap_append, flatMap_chars_plain, ih]
      cases slot.isSpread <;> simp [SqlPiece.chars]

/-- Pieces with numbered placeholders and no colon are plain text and slots. -/
theorem exists_of_references {scanned : List SqlPiece} {placeholders : List (Bool × Nat)}
    {first : Nat} {values : List Json} (hcolon : .char ':' ∉ scanned)
    (hreferences : scanned.filterMap reference? = references placeholders)
    (hnumbers : placeholders.map Prod.snd = List.range' first values.length) :
    ∃ (lead : List Char) (slots : List Slot),
      scanned = lead.map .char ++ pieces first slots ∧ slots.map Slot.value = values ∧
        ':' ∉ lead ∧ ∀ slot ∈ slots, ':' ∉ slot.trail := by
  induction scanned generalizing placeholders first values with
  | nil =>
      have hnone : placeholders = [] := List.map_eq_nil_iff.mp hreferences.symm
      rw [hnone, List.map_nil] at hnumbers
      have hlength : values.length = 0 := List.range'_eq_nil_iff.mp hnumbers.symm
      have hvalues : values = [] := List.length_eq_zero_iff.mp hlength
      exact ⟨[], [], rfl, hvalues.symm, List.not_mem_nil, by simp⟩
  | cons piece rest ih =>
      rw [List.mem_cons, not_or] at hcolon
      cases piece with
      | char c =>
          -- the character belongs to the text in front of the first slot
          rw [List.filterMap_cons_none rfl] at hreferences
          obtain ⟨lead, slots, rfl, hvalues, hlead, htrails⟩ :=
            ih hcolon.2 hreferences hnumbers
          refine ⟨c :: lead, slots, rfl, hvalues, ?_, htrails⟩
          rw [List.mem_cons, not_or]
          exact ⟨fun heq => hcolon.1 (heq ▸ rfl), hlead⟩
      | placeholder isSpread name =>
          -- what the rest begins with is the trail of a new slot
          have hreference : reference? (.placeholder isSpread name) = some (isSpread, name) := rfl
          rw [List.filterMap_cons_some hreference] at hreferences
          cases placeholders with
          | nil => exact absurd hreferences (by simp [references])
          | cons placeholder others =>
              obtain ⟨spread, index⟩ := placeholder
              simp only [references, List.map_cons, List.cons.injEq, Prod.mk.injEq]
                at hreferences
              obtain ⟨⟨rfl, rfl⟩, hothers⟩ := hreferences
              cases values with
              | nil => simp at hnumbers
              | cons value more =>
                  rw [List.length_cons, List.range'_succ, List.map_cons, List.cons.injEq]
                    at hnumbers
                  obtain ⟨rfl, hnumbers⟩ := hnumbers
                  obtain ⟨trail, slots, rfl, rfl, htrail, htrails⟩ :=
                    ih hcolon.2 hothers hnumbers
                  refine ⟨[], ⟨isSpread, value, trail⟩ :: slots, rfl, rfl, List.not_mem_nil, ?_⟩
                  intro slot hmem
                  rcases List.mem_cons.mp hmem with rfl | hmem
                  · exact htrail
                  · exact htrails slot hmem

end Slot

namespace PositionalSql

theorem ofPieces_plain_append (backend : Backend) (parameters : Parameters) (chars : List Char)
    (pieces : List SqlPiece) (bound : Nat) :
    ofPieces backend parameters (chars.map .char ++ pieces) bound =
      (chars ++ (ofPieces backend parameters pieces bound).1,
        (ofPieces backend parameters pieces bound).2) := by
  induction chars with
  | nil => rfl
  | cons c rest ih =>
      rw [List.map_cons, List.cons_append, ofPieces, ih]
      rfl

/-- Every slot is replaced by the placeholders of its own values. -/
theorem ofPieces_slots {backend : Backend} {parameters : Parameters} {first : Nat}
    {slots : List Slot}
    (hget : ∀ index, Named.get? (parameterName (first + index)) parameters =
      (slots.map Slot.value)[index]?) (bound : Nat) :
    ofPieces backend parameters (Slot.pieces first slots) bound =
      (Slot.positionalText backend bound slots, slots.flatMap Slot.binds) := by
  induction slots generalizing first bound with
  | nil => rfl
  | cons slot rest ih =>
      have hvalue : Named.get? (parameterName first) parameters = some slot.value := by
        simpa using hget 0
      have hrest (index : Nat) : Named.get? (parameterName (first + 1 + index)) parameters =
          (rest.map Slot.value)[index]? := by
        have hnext := hget (index + 1)
        rw [List.map_cons, List.getElem?_cons_succ] at hnext
        rw [← hnext]
        congr 2
        omega
      rw [Slot.pieces, ofPieces, String.ofList_toList, hvalue]
      simp only
      rw [ofPieces_plain_append, ih hrest, ← slot.binds_eq_boundBy, Slot.positionalText,
        Slot.marks_eq_placeholders]
      rfl

end PositionalSql

/-! ## The sections of a query -/

/-- A section of the text, which a blank separates from what stands before it. -/
def IsSection (text : String) : Prop :=
  text = "" ∨ ∃ more, text.toList = ' ' :: more

theorem IsSection.endsIdentifier {text : String} (hsection : IsSection text) {rest : List Char}
    (hrest : EndsIdentifier rest) : EndsIdentifier (text.toList ++ rest) := by
  rcases hsection with rfl | ⟨more, htext⟩
  · exact hrest
  · rw [htext]
    exact endsIdentifier_cons (by decide) _

theorem colon_notMem_toString (n : UInt64) : ':' ∉ (toString n).toList := by
  intro hmem
  have hdigits : (toString n).toList = Nat.toDigits 10 n.toNat := by
    simp [toString, Nat.repr]
  rw [hdigits] at hmem
  have hdigit := Nat.isDigit_of_mem_toDigits (by decide) (by decide) hmem
  exact absurd hdigit (by decide)

theorem Backend.colon_notMem_limitOffset (backend : Backend) (limit offset : Option UInt64)
    (text : String) (htext : backend.limitOffset limit offset = some text) :
    ':' ∉ text.toList := by
  cases limit with
  | none =>
      cases offset with
      | none => simp [limitOffset] at htext
      | some offset =>
          have hoffset := colon_notMem_toString offset
          cases backend with
          | postgres =>
              simp only [limitOffset, Option.some.injEq] at htext
              simp [← htext, hoffset]
          | sqlite =>
              simp only [limitOffset, Option.some.injEq] at htext
              simp [← htext, hoffset]
  | some limit =>
      have hlimit := colon_notMem_toString limit
      cases offset with
      | none =>
          simp only [limitOffset, Option.some.injEq] at htext
          simp [← htext, hlimit]
      | some offset =>
          have hoffset := colon_notMem_toString offset
          simp only [limitOffset, Option.some.injEq] at htext
          simp [← htext, hlimit, hoffset]

def Join.names (join : Join) : List String :=
  match join.target with
  | some target => [target.table, join.tableAlias, target.condition]
  | none => []

namespace Select

variable {select : Select} {backend : Backend}

def names (select : Select) : List String :=
  [select.rootAlias, select.rootTable] ++
    (select.joins.flatMap Join.names ++
      select.orders.flatMap fun (column, direction) => [column, direction])

theorem colon_notMem_joinsSql {joins : List Join} {text : String}
    (hcolons : ∀ name ∈ joins.flatMap Join.names, ':' ∉ name.toList)
    (htext : joinsSql joins = .ok text) : ':' ∉ text.toList := by
  induction joins generalizing text with
  | nil =>
      cases htext
      simp
  | cons join rest ih =>
      rw [List.flatMap_cons, List.forall_mem_append] at hcolons
      obtain ⟨hjoin, hrestNames⟩ := hcolons
      cases htarget : join.target with
      | none => simp [joinsSql, htarget] at htext
      | some target =>
          rw [joinsSql_cons htarget] at htext
          rw [Join.names, htarget] at hjoin
          have htable := hjoin target.table (by simp)
          have halias := hjoin join.tableAlias (by simp)
          have hcondition := hjoin target.condition (by simp)
          cases hothers : joinsSql rest with
          | error problem =>
              rw [hothers] at htext
              cases htext
          | ok others =>
              have hrest := ih hrestNames hothers
              rw [hothers] at htext
              cases htext
              simp [htable, halias, hcondition, hrest]

theorem unresolved_of_joinsSql_error {joins : List Join} {problem : QueryError}
    (hproblem : joinsSql joins = .error problem) :
    ∃ path, problem = .unresolvedJoin path := by
  induction joins with
  | nil => cases hproblem
  | cons join rest ih =>
      cases htarget : join.target with
      | none =>
          simp only [joinsSql, htarget, Except.error.injEq] at hproblem
          exact ⟨join.path, hproblem.symm⟩
      | some target =>
          rw [joinsSql_cons htarget] at hproblem
          cases hothers : joinsSql rest with
          | error other =>
              rw [hothers] at hproblem
              cases hproblem
              exact ih hothers
          | ok others =>
              rw [hothers] at hproblem
              cases hproblem

theorem unresolved_of_sql_error {problem : QueryError}
    (hproblem : select.sql backend = .error problem) :
    ∃ path, problem = .unresolvedJoin path := by
  rw [sql_eq_map] at hproblem
  cases hjoins : joinsSql select.joins with
  | error other =>
      rw [hjoins] at hproblem
      cases hproblem
      exact unresolved_of_joinsSql_error hjoins
  | ok joins =>
      rw [hjoins] at hproblem
      cases hproblem

theorem colon_notMem_orderSql
    (hcolons : ∀ name ∈ select.orders.flatMap fun (column, direction) => [column, direction],
      ':' ∉ name.toList) : ':' ∉ select.orderSql.toList := by
  unfold orderSql
  split
  · simp
  · have hjoined : ':' ∉ (Text.joined ", "
        (select.orders.map fun (column, direction) => column ++ " " ++ direction)).toList := by
      apply Text.notMem_joined (by decide)
      intro part hpart
      obtain ⟨⟨column, direction⟩, horder, rfl⟩ := List.mem_map.mp hpart
      have hcolumn := hcolons column (List.mem_flatMap.mpr ⟨_, horder, by simp⟩)
      have hdirection := hcolons direction (List.mem_flatMap.mpr ⟨_, horder, by simp⟩)
      simp [hcolumn, hdirection]
    simp [hjoined]

theorem colon_notMem_pagingSql (select : Select) (backend : Backend) :
    ':' ∉ (select.pagingSql backend).toList := by
  unfold pagingSql
  split
  · next text htext =>
    have hcolon := backend.colon_notMem_limitOffset select.limit select.offset text htext
    simp [hcolon]
  · simp

theorem isSection_pagingSql (select : Select) (backend : Backend) :
    IsSection (select.pagingSql backend) := by
  unfold pagingSql
  split
  · exact .inr ⟨_, by rw [String.toList_append]; rfl⟩
  · exact .inl rfl

theorem isSection_tail (select : Select) (backend : Backend) :
    IsSection (select.orderSql ++ select.pagingSql backend) := by
  unfold orderSql
  split
  · rw [String.empty_append]
    exact select.isSection_pagingSql backend
  · exact .inr ⟨_, by rw [String.toList_append, String.toList_append]; rfl⟩

theorem whereSql_hasPlaceholders {placeholders : List (Bool × Nat)}
    (hclause : HasPlaceholders select.clause.toList placeholders) :
    HasPlaceholders select.whereSql.toList placeholders := by
  unfold whereSql
  split
  · next hempty =>
    rw [String.isEmpty_iff] at hempty
    rw [hempty] at hclause
    exact hclause
  · rw [String.toList_append]
    exact .plain_append (by decide) hclause

theorem sql_hasPlaceholders {placeholders : List (Bool × Nat)} {sql : String}
    (hclause : HasPlaceholders select.clause.toList placeholders)
    (hcolons : ∀ name ∈ select.names, ':' ∉ name.toList) (hsql : select.sql backend = .ok sql) :
    HasPlaceholders sql.toList placeholders := by
  unfold names at hcolons
  rw [sql_eq_map] at hsql
  cases hjoins : joinsSql select.joins with
  | error problem =>
      rw [hjoins] at hsql
      cases hsql
  | ok joins =>
      rw [hjoins, Except.map, Except.ok.injEq] at hsql
      have halias := hcolons select.rootAlias (by simp)
      have htable := hcolons select.rootTable (by simp)
      have hjoined : ':' ∉ joins.toList :=
        colon_notMem_joinsSql (fun name hmem => hcolons name (by
          simp only [List.mem_append]
          exact .inr (.inl hmem))) hjoins
      have horder : ':' ∉ select.orderSql.toList :=
        colon_notMem_orderSql fun name hmem => hcolons name (by
          simp only [List.mem_append]
          exact .inr (.inr hmem))
      have hpaging := select.colon_notMem_pagingSql backend
      have htail : HasPlaceholders (select.orderSql ++ select.pagingSql backend).toList [] :=
        .plain (by simp [horder, hpaging])
      have hwhere := (whereSql_hasPlaceholders hclause).append htail fun rest =>
        (select.isSection_tail backend).endsIdentifier
      rw [List.append_nil, ← String.toList_append] at hwhere
      rw [← hsql, String.append_assoc, String.append_assoc, String.toList_append]
      exact .plain_append (by simp [halias, htable, hjoined]) hwhere

end Select

/-! ## The clause of a request -/

def Call.isPredicate : Call → Bool
  | .where_ _ _ => true
  | _ => false

namespace Select

theorem predicate_perform (select : Select) {call : Call} (hkeeps : call.isPredicate = false) :
    (Call.perform select call).clause = select.clause ∧
      (Call.perform select call).parameters = select.parameters := by
  cases call with
  | join path tableAlias =>
      simp only [Call.perform, QueryBuilder.innerJoin, innerJoin]
      cases select.relationAt? path <;> exact ⟨rfl, rfl⟩
  | where_ clause parameters => simp [Call.isPredicate] at hkeeps
  | order column direction => exact ⟨rfl, rfl⟩
  | skip offset => exact ⟨rfl, rfl⟩
  | take limit => exact ⟨rfl, rfl⟩

/-- Joins, orders and windows leave the predicate alone. -/
theorem predicate_replay {calls : List Call} (hkeeps : ∀ call ∈ calls, call.isPredicate = false)
    (select : Select) :
    (Call.replay calls select).clause = select.clause ∧
      (Call.replay calls select).parameters = select.parameters := by
  induction calls generalizing select with
  | nil => exact ⟨rfl, rfl⟩
  | cons call rest ih =>
      have hfirst := select.predicate_perform (hkeeps call List.mem_cons_self)
      have hrest := ih (fun other hmem => hkeeps other (List.mem_cons_of_mem _ hmem))
        (Call.perform select call)
      rw [Call.replay_cons]
      exact ⟨hrest.1.trans hfirst.1, hrest.2.trans hfirst.2⟩

end Select

namespace Request

def compiled (request : Request) (tableAlias : String) (relations : RelationMap) : Compiled :=
  match request.filter with
  | none => .nothing 0
  | some filter => filter.compile tableAlias relations 0

theorem compiled_binds (request : Request) (tableAlias : String) (relations : RelationMap) :
    ∃ values, (request.compiled tableAlias relations).Binds 0 values := by
  unfold compiled
  cases request.filter with
  | none => exact ⟨[], Compiled.binds_nothing 0⟩
  | some filter => exact ⟨_, filter.compile_binds tableAlias relations 0⟩

theorem predicate_apply (request : Request) (tableAlias : String) (relations : RelationMap)
    (select : Select) (hclause : select.clause = "") (hparameters : select.parameters = []) :
    (request.apply tableAlias relations select).clause =
        (request.compiled tableAlias relations).text ∧
      (request.apply tableAlias relations select).parameters =
        (request.compiled tableAlias relations).parameters := by
  have hlater : ∀ call ∈ request.orderCalls tableAlias relations ++ request.paginationCalls,
      call.isPredicate = false :=
    request.forall_laterCalls tableAlias relations (fun _ _ => rfl) (fun _ => rfl) fun _ => rfl
  have hkept := Select.predicate_replay hlater
    (Call.replay (request.filterCalls tableAlias relations) select)
  rw [apply_eq_replay, calls, Call.replay_append, hkept.1, hkept.2]
  unfold filterCalls compiled
  cases request.filter with
  | none => exact ⟨hclause, hparameters⟩
  | some filter =>
      simp only [Call.replay_append]
      exact ⟨rfl, rfl⟩

end Request

/-! ## Compilation -/

/-- The names that a session writes into the text of a request: those of the joins and the orders,
and the columns of the clause. -/
def Session.sqlNames (session : Session) (entity : String) (tableAlias : Option String)
    (request : Request) : List String :=
  let tableAlias := tableAlias.getD (defaultAlias entity)
  let relations := session.catalog.relationMap entity
  let clause := (request.compiled tableAlias relations).clause
  (request.apply tableAlias relations (Select.ofEntity session.catalog entity tableAlias)).names ++
    (Clause.columns clause).flatMap fun column => [column.qualifier, column.name]

theorem Column.not_hasColon {column : Column} (hqualifier : ':' ∉ column.qualifier.toList)
    (hname : ':' ∉ column.name.toList) : ¬ column.HasColon := by
  unfold HasColon text
  simp [hqualifier, hname]

theorem Select.exists_slots {select : Select} {backend : Backend} {sql : String}
    {placeholders : List (Bool × Nat)} {values : List Json}
    (hclause : HasPlaceholders select.clause.toList placeholders)
    (hnumbers : placeholders.map Prod.snd = List.range' 0 values.length)
    (hparameters : select.parameters = numberedParameters 0 values)
    (hcolons : ∀ name ∈ select.names, ':' ∉ name.toList) (hsql : select.sql backend = .ok sql) :
    ∃ (lead : List Char) (slots : List Slot),
      sql = String.ofList (lead ++ Slot.namedText 0 slots) ∧
        select.parameters = numberedParameters 0 (slots.map Slot.value) ∧
        PositionalSql.ofNamed backend select.parameters sql =
          ⟨String.ofList (lead ++ Slot.positionalText backend 0 slots),
            slots.flatMap Slot.binds⟩ ∧
        SqlPiece.scan (lead ++ Slot.namedText 0 slots) = lead.map .char ++ Slot.pieces 0 slots ∧
        ':' ∉ lead ∧ ∀ slot ∈ slots, ':' ∉ slot.trail := by
  obtain ⟨pieces, hpieces, hcolon, hreferences⟩ := sql_hasPlaceholders hclause hcolons hsql
  have hscan : SqlPiece.scan sql.toList = pieces := by
    have hend := hpieces [] endsIdentifier_nil
    rwa [List.append_nil, SqlPiece.scan, List.append_nil] at hend
  obtain ⟨lead, slots, hslots, rfl, hlead, htrails⟩ :=
    Slot.exists_of_references hcolon hreferences hnumbers
  have htext : sql.toList = lead ++ Slot.namedText 0 slots := by
    rw [← SqlPiece.flatMap_chars_scan sql.toList, hscan, hslots, List.flatMap_append,
      SqlPiece.flatMap_chars_plain, Slot.flatMap_chars_pieces]
  have hget (index : Nat) : Named.get? (parameterName (0 + index)) select.parameters =
      (slots.map Slot.value)[index]? := by
    rw [hparameters]
    exact get?_numberedParameters 0 index _
  refine ⟨lead, slots, ?_, hparameters, ?_, ?_, hlead, htrails⟩
  · rw [← htext, String.ofList_toList]
  · rw [PositionalSql.ofNamed, hscan, hslots, PositionalSql.ofPieces_plain_append,
      PositionalSql.ofPieces_slots hget]
  · rw [← htext, hscan, hslots]

/-- Without foreign colons the two forms of a request fail with the same join, or they are written
from the same slots: the named form has the parameters of the slots, numbered from zero on, and the
positional form has the values of each slot in its place. -/
theorem compile_named_positional_agree (session : Session) (entity : String)
    (tableAlias : Option String) (request : Request)
    (hcolons : ∀ name ∈ session.sqlNames entity tableAlias request, ':' ∉ name.toList) :
    (∃ path, ∀ positional,
      session.compile entity tableAlias request positional = .error (.unresolvedJoin path)) ∨
      ∃ (lead : List Char) (slots : List Slot),
        session.compile entity tableAlias request false =
            .ok (.object [
              ("sql", .string (String.ofList (lead ++ Slot.namedText 0 slots))),
              ("parameters", .object (numberedParameters 0 (slots.map Slot.value)))]) ∧
          session.compile entity tableAlias request true =
            .ok (.object [
              ("sql", .string (String.ofList
                (lead ++ Slot.positionalText session.settings.backend 0 slots))),
              ("binds", .array (slots.flatMap Slot.binds))]) ∧
          SqlPiece.scan (lead ++ Slot.namedText 0 slots) =
            lead.map .char ++ Slot.pieces 0 slots ∧
          ':' ∉ lead ∧ ∀ slot ∈ slots, ':' ∉ slot.trail := by
  unfold Session.sqlNames at hcolons
  generalize hname : tableAlias.getD (Session.defaultAlias entity) = rootAlias at hcolons
  generalize hrelations : session.catalog.relationMap entity = relations at hcolons
  simp only [List.forall_mem_append] at hcolons
  obtain ⟨hnames, hcolumns⟩ := hcolons
  have hpredicate := request.predicate_apply rootAlias relations
    (Select.ofEntity session.catalog entity rootAlias) rfl rfl
  have hselect : session.select entity tableAlias request = .ok (request.apply rootAlias relations
      (Select.ofEntity session.catalog entity rootAlias)) := by
    rw [← hname, ← hrelations]
    rfl
  generalize request.apply rootAlias relations
    (Select.ofEntity session.catalog entity rootAlias) = select at *
  obtain ⟨hclause, hparameters⟩ := hpredicate
  obtain ⟨values, hbinds⟩ := request.compiled_binds rootAlias relations
  generalize request.compiled rootAlias relations = compiled at *
  cases hsql : select.sql session.settings.backend with
  | error problem =>
      obtain ⟨path, rfl⟩ := Select.unresolved_of_sql_error hsql
      left
      refine ⟨path, ?_⟩
      intro positional
      unfold Session.compile
      rw [hselect]
      cases positional <;> simp [bind, Except.bind, Select.positional, hsql]
  | ok sql =>
      right
      have hplaceholders : HasPlaceholders select.clause.toList
          (Clause.placeholders compiled.clause) := by
        rw [hclause]
        apply Clause.text_hasPlaceholders
        intro column hmem
        exact Column.not_hasColon
          (hcolumns column.qualifier (List.mem_flatMap.mpr ⟨column, hmem, by simp⟩))
          (hcolumns column.name (List.mem_flatMap.mpr ⟨column, hmem, by simp⟩))
      obtain ⟨lead, slots, htext, hslotParameters, hrendered, hscan⟩ :=
        Select.exists_slots hplaceholders hbinds.placeholders
          (hparameters.trans hbinds.parameters) hnames hsql
      refine ⟨lead, slots, ?_, ?_, hscan⟩
      · unfold Session.compile
        rw [hselect, ← hslotParameters, ← htext]
        simp [bind, Except.bind, pure, Except.pure, hsql]
      · unfold Session.compile
        rw [hselect]
        simp [bind, Except.bind, pure, Except.pure, Select.positional, hsql, hrendered]

def Session.ofPosts : Session where
  settings := ⟨none, .postgres, false, false⟩
  catalog := ⟨[
    ("Post", ⟨some "posts", [⟨"author", "User", .manyToOne, none, none⟩]⟩),
    ("User", ⟨some "users", []⟩)]⟩
  metrics := none

def Request.ofAuthorAndKeys : Request where
  filter := some (.ofEntries [
    ("author", .mapping (.ofEntries [("name", .scalar (.string "Ann"))]) [("name", .string "Ann")]),
    ("id", .sequence [.ofNat 1, .ofNat 2])])
  order := none
  pagination := none

theorem compile_named_positional_agree_of_posts :
    (∀ name ∈ Session.ofPosts.sqlNames "Post" (some "p") .ofAuthorAndKeys, ':' ∉ name.toList) ∧
      ∃ (lead : List Char) (slots : List Slot),
        Session.ofPosts.compile "Post" (some "p") .ofAuthorAndKeys false =
            .ok (.object [
              ("sql", .string (String.ofList (lead ++ Slot.namedText 0 slots))),
              ("parameters", .object (numberedParameters 0 (slots.map Slot.value)))]) ∧
          Session.ofPosts.compile "Post" (some "p") .ofAuthorAndKeys true =
            .ok (.object [
              ("sql", .string (String.ofList (lead ++ Slot.positionalText .postgres 0 slots))),
              ("binds", .array (slots.flatMap Slot.binds))]) := by
  have hrelations : Session.ofPosts.catalog.relationMap "Post" =
      .ofEntries [("author", .ofEntries [])] := by
    cbv
  have hnames : Session.ofPosts.sqlNames "Post" (some "p") .ofAuthorAndKeys =
      ["p", "posts", "users", "author", "author.id = p.author_id", "author", "name", "p",
        "id"] := by
    unfold Session.sqlNames
    rw [hrelations]
    decide
  have hcolons : ∀ name ∈ Session.ofPosts.sqlNames "Post" (some "p") .ofAuthorAndKeys,
      ':' ∉ name.toList := by
    rw [hnames]
    decide
  have hselect : Session.ofPosts.select "Post" (some "p") .ofAuthorAndKeys =
      .ok (Request.ofAuthorAndKeys.apply "p" (.ofEntries [("author", .ofEntries [])])
        (Select.ofEntity Session.ofPosts.catalog "Post" "p")) := by
    rw [← hrelations]
    rfl
  have hcompiled :
      (Session.ofPosts.compile "Post" (some "p") .ofAuthorAndKeys false).isOk = true := by
    unfold Session.compile
    rw [hselect]
    rfl
  refine ⟨hcolons, ?_⟩
  rcases compile_named_positional_agree .ofPosts "Post" (some "p") .ofAuthorAndKeys hcolons with
    ⟨path, herror⟩ | ⟨lead, slots, hnamed, hpositional, -⟩
  · rw [herror false] at hcompiled
    cases hcompiled
  · exact ⟨lead, slots, hnamed, hpositional⟩

end FilterQuery
