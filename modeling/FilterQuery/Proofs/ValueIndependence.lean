import FilterQuery.Proofs.BuilderCalls
import FilterQuery.Proofs.ParameterNumbering

/-!
# Independence of the values

Two filters have the same shape under a relation map if they differ only in the values that they
compare with.  Requests of one shape make the same calls up to these values, and therefore the same
SQL text.  With positional placeholders a value can change the text in one way: a list under a
spread placeholder takes as many placeholders as it has items.
-/

namespace FilterQuery

/-! ## Filters of one shape -/

mutual

def Filter.SameShape (relations : RelationMap) : Filter → Filter → Prop
  | .ofEntries entries, .ofEntries others => SameEntryShapes relations entries others
termination_by structural filter => filter

/-- Combinators agree in their operator and in the shapes of their branches.  Under a relation
objects agree in the shapes of their filters, and all other values are alike.  Under a column
objects agree in the names of their operators. -/
def FilterValue.SameShape (relations : RelationMap) (key : String) :
    FilterValue → FilterValue → Prop
  | .combinator combinator branches, .combinator other others =>
      combinator = other ∧ SameBranchShapes relations branches others
  | .mapping nested members, .mapping other others =>
      match relations.get? key with
      | some inner => nested.SameShape inner other
      | none => members.map Prod.fst = others.map Prod.fst
  | .sequence _, .sequence _ => True
  | .scalar _, .scalar _ => True
  | .sequence _, .scalar _ => relations.contains key = true
  | .scalar _, .sequence _ => relations.contains key = true
  | _, _ => False
termination_by structural value => value

def SameEntryShapes (relations : RelationMap) :
    List (String × FilterValue) → List (String × FilterValue) → Prop
  | [], [] => True
  | (key, value) :: rest, (other, otherValue) :: others =>
      key = other ∧ value.SameShape relations key otherValue ∧
        SameEntryShapes relations rest others
  | _, _ => False
termination_by structural entries => entries

def SameBranchShapes (relations : RelationMap) : List Filter → List Filter → Prop
  | [], [] => True
  | branch :: rest, other :: others =>
      branch.SameShape relations other ∧ SameBranchShapes relations rest others
  | _, _ => False
termination_by structural branches => branches

end

/-! ## The joins depend on the shape only -/

mutual

theorem Filter.SameShape.joinSteps_eq (tableAlias : String) (relations : RelationMap) :
    (filter other : Filter) → filter.SameShape relations other →
      filter.joinSteps tableAlias relations = other.joinSteps tableAlias relations
  | .ofEntries entries, .ofEntries others, hshape => by
      rw [Filter.SameShape] at hshape
      rw [Filter.joinSteps, Filter.joinSteps]
      exact SameEntryShapes.joinSteps_eq tableAlias relations entries others hshape
termination_by structural filter => filter

theorem FilterValue.SameShape.joinSteps_eq (tableAlias : String) (relations : RelationMap)
    (key : String) :
    (value other : FilterValue) → value.SameShape relations key other →
      value.joinSteps tableAlias relations key = other.joinSteps tableAlias relations key
  | .combinator combinator branches, .combinator other others, hshape => by
      rw [FilterValue.SameShape] at hshape
      rw [FilterValue.joinSteps, FilterValue.joinSteps]
      exact SameBranchShapes.joinSteps_eq tableAlias relations branches others hshape.2
  | .mapping nested members, .mapping other others, hshape => by
      rw [FilterValue.SameShape] at hshape
      rw [FilterValue.joinSteps, FilterValue.joinSteps]
      cases hinner : relations.get? key with
      | none => rfl
      | some inner =>
          rw [hinner] at hshape
          simp only [Filter.SameShape.joinSteps_eq key inner nested other hshape]
  | .sequence items, .sequence others, hshape => rfl
  | .scalar value, .scalar other, hshape => rfl
  | .sequence items, .scalar other, hshape => rfl
  | .scalar value, .sequence others, hshape => rfl
termination_by structural value => value

theorem SameEntryShapes.joinSteps_eq (tableAlias : String) (relations : RelationMap) :
    (entries others : List (String × FilterValue)) → SameEntryShapes relations entries others →
      entriesJoinSteps tableAlias relations entries =
        entriesJoinSteps tableAlias relations others
  | [], [], hshape => rfl
  | (key, value) :: rest, (other, otherValue) :: others, hshape => by
      rw [SameEntryShapes] at hshape
      obtain ⟨rfl, hvalue, hrest⟩ := hshape
      rw [entriesJoinSteps, entriesJoinSteps,
        FilterValue.SameShape.joinSteps_eq tableAlias relations key value otherValue hvalue,
        SameEntryShapes.joinSteps_eq tableAlias relations rest others hrest]
termination_by structural entries => entries

theorem SameBranchShapes.joinSteps_eq (tableAlias : String) (relations : RelationMap) :
    (branches others : List Filter) → SameBranchShapes relations branches others →
      branchesJoinSteps tableAlias relations branches =
        branchesJoinSteps tableAlias relations others
  | [], [], hshape => rfl
  | branch :: rest, other :: others, hshape => by
      rw [SameBranchShapes] at hshape
      rw [branchesJoinSteps, branchesJoinSteps,
        Filter.SameShape.joinSteps_eq tableAlias relations branch other hshape.1,
        SameBranchShapes.joinSteps_eq tableAlias relations rest others hshape.2]
termination_by structural branches => branches

end

/-! ## The clause depends on the shape only -/

structure Compiled.SameText (compiled other : Compiled) : Prop where
  clause : compiled.clause = other.clause
  next : compiled.next = other.next

structure CompiledBranches.SameText (branches others : CompiledBranches) : Prop where
  clauses : branches.clauses = others.clauses
  next : branches.next = others.next

namespace Compiled.SameText

variable {compiled other : Compiled}

theorem refl (compiled : Compiled) : compiled.SameText compiled := ⟨rfl, rfl⟩

theorem combined {branches others : CompiledBranches} (hsame : branches.SameText others)
    (combinator : Combinator) :
    (Compiled.combined combinator branches).SameText (Compiled.combined combinator others) := by
  constructor
  · rw [Compiled.combined, Compiled.combined, hsame.clauses]
  · exact hsame.next

theorem enclosed (hsame : compiled.SameText other) : compiled.enclosed.SameText other.enclosed := by
  constructor
  · rw [Compiled.enclosed, Compiled.enclosed, hsame.clause]
  · exact hsame.next

theorem followedBy {rest others : Nat → Compiled} (hsame : compiled.SameText other)
    (hrest : ∀ next, (rest next).SameText (others next)) :
    (compiled.followedBy rest).SameText (other.followedBy others) := by
  have hsecond := hrest other.next
  constructor
  · simp only [Compiled.followedBy]
    rw [hsame.next, hsame.clause, hsecond.clause]
  · simp only [Compiled.followedBy]
    rw [hsame.next, hsecond.next]

end Compiled.SameText

theorem CompiledBranches.sameText_cons {branch other : Compiled}
    {rest others : CompiledBranches} (hbranch : branch.SameText other)
    (hrest : rest.SameText others) :
    CompiledBranches.SameText
      { clauses := if branch.clause.isEmpty then rest.clauses else branch.clause :: rest.clauses
        parameters := Named.extend branch.parameters rest.parameters
        next := rest.next }
      { clauses := if other.clause.isEmpty then others.clauses else other.clause :: others.clauses
        parameters := Named.extend other.parameters others.parameters
        next := others.next } := by
  constructor
  · simp only
    rw [hbranch.clause, hrest.clauses]
  · exact hrest.next

theorem compileOperators_sameText (column : Column) (members others : List (String × Json))
    (hnames : members.map Prod.fst = others.map Prod.fst) (next : Nat) :
    (compileOperators column members next).SameText (compileOperators column others next) := by
  induction members generalizing others next with
  | nil =>
      have hnil : others = [] := List.map_eq_nil_iff.mp hnames.symm
      rw [hnil]
      exact .refl _
  | cons member rest ih =>
      obtain ⟨name, operand⟩ := member
      cases others with
      | nil => simp at hnames
      | cons other others =>
          obtain ⟨otherName, otherOperand⟩ := other
          simp only [List.map_cons, List.cons.injEq] at hnames
          obtain ⟨rfl, hrest⟩ := hnames
          rw [compileOperators, compileOperators]
          cases Operator.ofName? name with
          | none => exact ih others hrest next
          | some operator =>
              have hfirst : (Compiled.comparison column operator operand next).SameText
                  (Compiled.comparison column operator otherOperand next) := ⟨rfl, rfl⟩
              exact hfirst.followedBy (ih others hrest)

mutual

theorem Filter.SameShape.compile_sameText (tableAlias : String) (relations : RelationMap) :
    (filter other : Filter) → filter.SameShape relations other → (next : Nat) →
      (filter.compile tableAlias relations next).SameText
        (other.compile tableAlias relations next)
  | .ofEntries entries, .ofEntries others, hshape, next => by
      rw [Filter.SameShape] at hshape
      rw [Filter.compile, Filter.compile]
      exact SameEntryShapes.compile_sameText tableAlias relations entries others hshape next
termination_by structural filter => filter

theorem FilterValue.SameShape.compile_sameText (tableAlias : String) (relations : RelationMap)
    (key : String) :
    (value other : FilterValue) → value.SameShape relations key other → (next : Nat) →
      (value.compile tableAlias relations key next).SameText
        (other.compile tableAlias relations key next)
  | .combinator combinator branches, .combinator other others, hshape, next => by
      rw [FilterValue.SameShape] at hshape
      obtain ⟨rfl, hbranches⟩ := hshape
      rw [FilterValue.compile, FilterValue.compile]
      exact .combined
        (SameBranchShapes.compile_sameText tableAlias relations branches others hbranches next)
        combinator
  | .mapping nested members, .mapping other others, hshape, next => by
      rw [FilterValue.SameShape] at hshape
      rw [FilterValue.compile, FilterValue.compile]
      cases hinner : relations.get? key with
      | none =>
          rw [hinner] at hshape
          exact compileOperators_sameText ⟨tableAlias, key⟩ members others hshape next
      | some inner =>
          rw [hinner] at hshape
          exact .enclosed (Filter.SameShape.compile_sameText key inner nested other hshape next)
  | .sequence items, .sequence others, hshape, next => by
      rw [FilterValue.compile, FilterValue.compile]
      cases relations.contains key <;> exact ⟨rfl, rfl⟩
  | .scalar value, .scalar other, hshape, next => by
      rw [FilterValue.compile, FilterValue.compile]
      cases relations.contains key <;> exact ⟨rfl, rfl⟩
  | .sequence items, .scalar other, hshape, next => by
      -- a list and a single value are alike only under a relation, where neither is compiled
      rw [FilterValue.SameShape] at hshape
      rw [FilterValue.compile, FilterValue.compile, hshape]
      exact .refl _
  | .scalar value, .sequence others, hshape, next => by
      rw [FilterValue.SameShape] at hshape
      rw [FilterValue.compile, FilterValue.compile, hshape]
      exact .refl _
termination_by structural value => value

theorem SameEntryShapes.compile_sameText (tableAlias : String) (relations : RelationMap) :
    (entries others : List (String × FilterValue)) → SameEntryShapes relations entries others →
      (next : Nat) →
      (compileEntries tableAlias relations entries next).SameText
        (compileEntries tableAlias relations others next)
  | [], [], hshape, next => .refl _
  | (key, value) :: rest, (other, otherValue) :: others, hshape, next => by
      rw [SameEntryShapes] at hshape
      obtain ⟨rfl, hvalue, hrest⟩ := hshape
      rw [compileEntries, compileEntries]
      exact .followedBy
        (FilterValue.SameShape.compile_sameText tableAlias relations key value otherValue hvalue
          next)
        (SameEntryShapes.compile_sameText tableAlias relations rest others hrest)
termination_by structural entries => entries

theorem SameBranchShapes.compile_sameText (tableAlias : String) (relations : RelationMap) :
    (branches others : List Filter) → SameBranchShapes relations branches others →
      (next : Nat) →
      (compileBranches tableAlias relations branches next).SameText
        (compileBranches tableAlias relations others next)
  | [], [], hshape, next => ⟨rfl, rfl⟩
  | branch :: rest, other :: others, hshape, next => by
      rw [SameBranchShapes] at hshape
      have hbranch := Filter.SameShape.compile_sameText tableAlias relations branch other hshape.1
        next
      have hrest := SameBranchShapes.compile_sameText tableAlias relations rest others hshape.2
        (other.compile tableAlias relations next).next
      rw [compileBranches, compileBranches]
      rw [← hbranch.next] at hrest
      exact CompiledBranches.sameText_cons hbranch (hbranch.next ▸ hrest)
termination_by structural branches => branches

end

/-- The names of the parameters are counted off, so equal clauses have equal names. -/
theorem Filter.SameShape.names_eq {relations : RelationMap} {filter other : Filter}
    (hshape : filter.SameShape relations other) (tableAlias : String) (next : Nat) :
    Named.names (filter.compile tableAlias relations next).parameters =
      Named.names (other.compile tableAlias relations next).parameters := by
  have hbinds := filter.compile_binds tableAlias relations next
  have hotherBinds := other.compile_binds tableAlias relations next
  have hnext := (Filter.SameShape.compile_sameText tableAlias relations filter other hshape
    next).next
  rw [hbinds.next, hotherBinds.next] at hnext
  have hlength :
      (filter.boundValues relations).length = (other.boundValues relations).length := by
    omega
  rw [hbinds.parameters, hotherBinds.parameters, names_numberedParameters,
    names_numberedParameters, hlength]

/-! ## Queries without their values -/

def eraseValues (parameters : Parameters) : Parameters :=
  (Named.names parameters).map fun name => (name, .null)

theorem names_eraseValues (parameters : Parameters) :
    Named.names (eraseValues parameters) = Named.names parameters := by
  simp [eraseValues, Named.names]

def Call.eraseValues : Call → Call
  | .where_ clause parameters => .where_ clause (FilterQuery.eraseValues parameters)
  | call => call

def Select.eraseValues (select : Select) : Select :=
  { select with parameters := FilterQuery.eraseValues select.parameters }

/-- A select query never looks at the values that it keeps. -/
theorem Select.eraseValues_perform (select : Select) (call : Call) :
    (Call.perform select call).eraseValues =
      Call.perform select.eraseValues call.eraseValues := by
  cases call with
  | join path tableAlias =>
      have hrelation : select.eraseValues.relationAt? path = select.relationAt? path := rfl
      simp only [Call.perform, Call.eraseValues, QueryBuilder.innerJoin, Select.innerJoin,
        hrelation]
      cases select.relationAt? path <;> rfl
  | where_ clause parameters => rfl
  | order column direction => rfl
  | skip offset => rfl
  | take limit => rfl

theorem Select.eraseValues_replay (select : Select) (calls : List Call) :
    (Call.replay calls select).eraseValues =
      Call.replay (calls.map Call.eraseValues) select.eraseValues := by
  induction calls generalizing select with
  | nil => rfl
  | cons call rest ih =>
      rw [Call.replay_cons, ih, Select.eraseValues_perform]
      rfl

theorem Select.sql_eraseValues (select : Select) (backend : Backend) :
    select.eraseValues.sql backend = select.sql backend := rfl

/-! ## The text with positional placeholders -/

/-- The number of values that each parameter has under a spread placeholder. -/
def spreadSizes (parameters : Parameters) : Named Nat :=
  parameters.map fun (name, value) => (name, (PositionalSql.boundBy true value).length)

theorem get?_spreadSizes (name : String) (parameters : Parameters) :
    Named.get? name (spreadSizes parameters) =
      (Named.get? name parameters).map fun value =>
        (PositionalSql.boundBy true value).length := by
  induction parameters with
  | nil => rfl
  | cons parameter rest ih =>
      obtain ⟨other, value⟩ := parameter
      simp only [spreadSizes, List.map_cons, Named.get?] at ih ⊢
      by_cases hname : other = name
      · rw [if_pos hname, if_pos hname, Option.map_some]
      · rw [if_neg hname, if_neg hname]
        exact ih

/-- The text of the pieces when the sizes of the parameters are known, but not their values. -/
def sizedText (backend : Backend) (sizes : Named Nat) : List SqlPiece → Nat → List Char
  | [], _ => []
  | .char c :: rest, bound => c :: sizedText backend sizes rest bound
  | .placeholder isSpread name :: rest, bound =>
      match Named.get? (String.ofList name) sizes with
      | none => (SqlPiece.placeholder isSpread name).chars ++ sizedText backend sizes rest bound
      | some size =>
          let count := if isSpread then size else 1
          (PositionalSql.placeholders backend (bound + 1) count).toList ++
            sizedText backend sizes rest (bound + count)

theorem length_boundBy (isSpread : Bool) (value : Json) :
    (PositionalSql.boundBy isSpread value).length =
      if isSpread then (PositionalSql.boundBy true value).length else 1 := by
  cases isSpread with
  | true => rfl
  | false => cases value <;> rfl

theorem PositionalSql.ofPieces_fst (backend : Backend) (parameters : Parameters)
    (pieces : List SqlPiece) (bound : Nat) :
    (ofPieces backend parameters pieces bound).1 =
      sizedText backend (spreadSizes parameters) pieces bound := by
  induction pieces generalizing bound with
  | nil => rfl
  | cons piece rest ih =>
      cases piece with
      | char c =>
          rw [ofPieces, sizedText, ← ih]
      | placeholder isSpread name =>
          rw [ofPieces, sizedText, get?_spreadSizes]
          cases Named.get? (String.ofList name) parameters with
          | none =>
              simp only [Option.map_none]
              rw [ih]
          | some value =>
              simp only [Option.map_some]
              rw [ih, length_boundBy]

/-- The sizes matter only where a spread placeholder stands. -/
theorem sizedText_congr (backend : Backend) {sizes others : Named Nat} {pieces : List SqlPiece}
    (hknown : ∀ name, (Named.get? name sizes).isSome = (Named.get? name others).isSome)
    (hsizes : ∀ name, .placeholder true name ∈ pieces →
      Named.get? (String.ofList name) sizes = Named.get? (String.ofList name) others)
    (bound : Nat) :
    sizedText backend sizes pieces bound = sizedText backend others pieces bound := by
  induction pieces generalizing bound with
  | nil => rfl
  | cons piece rest ih =>
      have hrest := ih fun name hmem => hsizes name (List.mem_cons_of_mem piece hmem)
      cases piece with
      | char c => rw [sizedText, sizedText, hrest]
      | placeholder isSpread name =>
          cases isSpread with
          | true =>
              rw [sizedText, sizedText, hsizes name List.mem_cons_self]
              cases Named.get? (String.ofList name) others with
              | none => simp only [hrest]
              | some size => simp only [hrest]
          | false =>
              have hsome := hknown (String.ofList name)
              rw [sizedText, sizedText]
              cases hfirst : Named.get? (String.ofList name) sizes with
              | none =>
                  rw [hfirst] at hsome
                  cases hsecond : Named.get? (String.ofList name) others with
                  | none => simp only [hrest]
                  | some other => simp [hsecond] at hsome
              | some size =>
                  rw [hfirst] at hsome
                  cases hsecond : Named.get? (String.ofList name) others with
                  | none => simp [hsecond] at hsome
                  | some other => simp [hrest]

def sizedSql (backend : Backend) (sizes : Named Nat) (sql : String) : String :=
  String.ofList (sizedText backend sizes (SqlPiece.scan sql.toList) 0)

theorem Select.map_sql_positional (select : Select) (backend : Backend) :
    (select.positional backend).map PositionalSql.sql =
      (select.sql backend).map (sizedSql backend (spreadSizes select.parameters)) := by
  unfold Select.positional
  cases select.sql backend with
  | error problem => rfl
  | ok sql =>
      simp only [bind, Except.bind, pure, Except.pure, Except.map, PositionalSql.ofNamed]
      rw [PositionalSql.ofPieces_fst]
      rfl

/-! ## Requests of one shape -/

def Request.SameShape (relations : RelationMap) (request other : Request) : Prop :=
  Option.Rel (Filter.SameShape relations) request.filter other.filter ∧
    request.order = other.order ∧ request.pagination = other.pagination

theorem Request.SameShape.calls_eq {relations : RelationMap} {request other : Request}
    (hshape : request.SameShape relations other) (tableAlias : String) :
    (request.calls tableAlias relations).map Call.eraseValues =
      (other.calls tableAlias relations).map Call.eraseValues := by
  obtain ⟨hfilter, horder, hpagination⟩ := hshape
  have hfilterCalls : (request.filterCalls tableAlias relations).map Call.eraseValues =
      (other.filterCalls tableAlias relations).map Call.eraseValues := by
    unfold filterCalls
    generalize request.filter = filter, other.filter = otherFilter at hfilter
    cases hfilter with
    | none => rfl
    | @some filter otherFilter hfilter =>
        have hsteps := Filter.SameShape.joinSteps_eq tableAlias relations filter otherFilter hfilter
        have htext := (Filter.SameShape.compile_sameText tableAlias relations filter otherFilter
          hfilter 0).clause
        have hnames := hfilter.names_eq tableAlias 0
        simp only [List.map_append, List.map_cons, List.map_nil, Filter.joinCalls, hsteps]
        simp only [Call.eraseValues, FilterQuery.eraseValues, Compiled.text, htext, hnames]
  have horderCalls : request.orderCalls tableAlias relations =
      other.orderCalls tableAlias relations := by
    unfold orderCalls
    rw [horder]
  have hpaginationCalls : request.paginationCalls = other.paginationCalls := by
    unfold paginationCalls
    rw [hpagination]
  rw [calls, List.map_append, hfilterCalls, horderCalls, hpaginationCalls, ← List.map_append]
  rfl

/-- Requests of one shape make the same calls up to the values of their parameters, on any select
query they give the same named SQL or the same error, and their positional SQL is computed from this
common text and the sizes of the lists under its spread placeholders. -/
theorem generate_independent_of_values (tableAlias : String) (root : Option (Catalog × String))
    (request other : Request) (hshape : request.SameShape (rootRelations root) other) :
    (∃ calls otherCalls : List Call,
      generate (some Recording.empty) tableAlias request root = .ok ⟨calls⟩ ∧
        generate (some Recording.empty) tableAlias other root = .ok ⟨otherCalls⟩ ∧
        calls.map Call.eraseValues = otherCalls.map Call.eraseValues) ∧
      ∀ select : Select, ∃ first second : Select,
        generate (some select) tableAlias request root = .ok first ∧
          generate (some select) tableAlias other root = .ok second ∧
          ∀ backend : Backend,
            first.sql backend = second.sql backend ∧
              (first.positional backend).map PositionalSql.sql =
                (first.sql backend).map (sizedSql backend (spreadSizes first.parameters)) ∧
              (second.positional backend).map PositionalSql.sql =
                (first.sql backend).map (sizedSql backend (spreadSizes second.parameters)) ∧
              ((∀ sql, first.sql backend = .ok sql →
                  ∀ name, .placeholder true name ∈ SqlPiece.scan sql.toList →
                    Named.get? (String.ofList name) (spreadSizes first.parameters) =
                      Named.get? (String.ofList name) (spreadSizes second.parameters)) →
                (first.positional backend).map PositionalSql.sql =
                  (second.positional backend).map PositionalSql.sql) := by
  have hcalls := hshape.calls_eq tableAlias
  constructor
  · refine ⟨_, _, ?_, ?_, hcalls⟩ <;>
      rw [generate_eq_replay, Call.replay_recording, Recording.empty, List.nil_append]
  · intro select
    refine ⟨_, _, generate_eq_replay select tableAlias request root,
      generate_eq_replay select tableAlias other root, ?_⟩
    intro backend
    generalize hfirst : Call.replay (request.calls tableAlias (rootRelations root)) select = first
    generalize hsecond : Call.replay (other.calls tableAlias (rootRelations root)) select = second
    have herased : first.eraseValues = second.eraseValues := by
      rw [← hfirst, ← hsecond, Select.eraseValues_replay, Select.eraseValues_replay, hcalls]
    have hsql : first.sql backend = second.sql backend := by
      rw [← first.sql_eraseValues, ← second.sql_eraseValues, herased]
    have hnames : Named.names first.parameters = Named.names second.parameters := by
      rw [← names_eraseValues first.parameters, ← names_eraseValues second.parameters]
      exact congrArg (fun erased => Named.names erased.parameters) herased
    have hfirstText := first.map_sql_positional backend
    have hsecondText := second.map_sql_positional backend
    rw [← hsql] at hsecondText
    refine ⟨hsql, hfirstText, hsecondText, ?_⟩
    intro hsizes
    rw [hfirstText, hsecondText]
    cases htext : first.sql backend with
    | error problem => rfl
    | ok sql =>
        have hknown (name : String) :
            (Named.get? name (spreadSizes first.parameters)).isSome =
              (Named.get? name (spreadSizes second.parameters)).isSome := by
          rw [get?_spreadSizes, get?_spreadSizes, Option.isSome_map, Option.isSome_map,
            Bool.eq_iff_iff, Named.isSome_get?_iff, Named.isSome_get?_iff, hnames]
        have hpieces := sizedText_congr backend hknown (hsizes sql htext) 0
        simp only [Except.map, sizedSql, hpieces]

def Catalog.ofPosts : Catalog :=
  ⟨[("Post", ⟨none, [⟨"author", "User", .manyToOne, none, none⟩]⟩)]⟩

/-- The posts of an author that are among these, or have more views than a bound. -/
def Request.ofAuthorOrViews (author : Json) (keys : List Json) (bound : Json) : Request where
  filter := some (.ofEntries [
    ("or", .combinator .or [
      .ofEntries [
        ("author", .mapping (.ofEntries [("name", .scalar author)]) [("name", author)]),
        ("id", .sequence keys)],
      .ofEntries [("views", .mapping (.ofEntries [("gt", .scalar bound)]) [("gt", bound)])]])])
  order := some (.ofEntries [("views", .direction "DESC")])
  pagination := none

theorem generate_independent_of_values_of_posts :
    Request.SameShape (rootRelations (some (Catalog.ofPosts, "Post")))
        (.ofAuthorOrViews (.string "Ann") [.ofNat 1, .ofNat 2] (.ofNat 7))
        (.ofAuthorOrViews .null [] (.string ":param0")) ∧
      ∀ select : Select, ∃ first second : Select,
        generate (some select) "post_"
            (.ofAuthorOrViews (.string "Ann") [.ofNat 1, .ofNat 2] (.ofNat 7))
            (some (Catalog.ofPosts, "Post")) = .ok first ∧
          generate (some select) "post_"
            (.ofAuthorOrViews .null [] (.string ":param0"))
            (some (Catalog.ofPosts, "Post")) = .ok second ∧
          ∀ backend : Backend, first.sql backend = second.sql backend := by
  have hrelations : rootRelations (some (Catalog.ofPosts, "Post")) =
      .ofEntries [("author", .ofEntries [])] := by
    cbv
  have hshape : Request.SameShape (rootRelations (some (Catalog.ofPosts, "Post")))
      (.ofAuthorOrViews (.string "Ann") [.ofNat 1, .ofNat 2] (.ofNat 7))
      (.ofAuthorOrViews .null [] (.string ":param0")) := by
    rw [hrelations]
    refine ⟨.some ?_, rfl, rfl⟩
    simp [Filter.SameShape, SameEntryShapes, SameBranchShapes, FilterValue.SameShape,
      RelationMap.get?, RelationMap.entries, Sorted.get?]
  refine ⟨hshape, ?_⟩
  intro select
  obtain ⟨first, second, hfirst, hsecond, hbackends⟩ :=
    (generate_independent_of_values "post_" _ _ _ hshape).2 select
  exact ⟨first, second, hfirst, hsecond, fun backend => (hbackends backend).1⟩

end FilterQuery
