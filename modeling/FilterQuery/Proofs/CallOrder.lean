import FilterQuery.Proofs.JoinResolution
import Mathlib.Data.List.Induction

/-!
# The order of calls

The five operations of a select query write to different parts of it, and only joins read what
earlier calls left: the entities behind the aliases.  So the state after any calls is told by the
joins among them, the orders among them, and the last predicate, offset and limit.  A join is looked
up once, when it is registered.  The statement fails just where some look-up failed, and names the
first of them whatever was called later.
-/

namespace FilterQuery

/-! ## What calls come to -/

namespace Call

def join? : Call → Option (String × String)
  | .join path tableAlias => some (path, tableAlias)
  | _ => none

theorem join?_eq_some_iff {call : Call} {step : String × String} :
    call.join? = some step ↔ call = .join step.1 step.2 := by
  cases call <;> simp [join?, Prod.ext_iff]

def predicate? : Call → Option (String × Parameters)
  | .where_ clause parameters => some (clause, parameters)
  | _ => none

def order? : Call → Option (String × String)
  | .order column direction => some (column, direction)
  | _ => none

def offset? : Call → Option UInt64
  | .skip offset => some offset
  | _ => none

def limit? : Call → Option UInt64
  | .take limit => some limit
  | _ => none

end Call

/-- Joins and orders add up in their order; of predicates, offsets and limits the last counts. -/
structure CallTotal where
  joins : List (String × String)
  orders : List (String × String)
  predicate : Option (String × Parameters)
  offset : Option UInt64
  limit : Option UInt64

def Call.total (calls : List Call) : CallTotal where
  joins := calls.filterMap Call.join?
  orders := calls.filterMap Call.order?
  predicate := (calls.filterMap Call.predicate?).getLast?
  offset := (calls.filterMap Call.offset?).getLast?
  limit := (calls.filterMap Call.limit?).getLast?

namespace CallTotal

def add (total : CallTotal) : Call → CallTotal
  | .join path tableAlias => { total with joins := total.joins ++ [(path, tableAlias)] }
  | .where_ clause parameters => { total with predicate := some (clause, parameters) }
  | .order column direction => { total with orders := total.orders ++ [(column, direction)] }
  | .skip offset => { total with offset := some offset }
  | .take limit => { total with limit := some limit }

theorem add_total (calls : List Call) (call : Call) :
    (Call.total calls).add call = Call.total (calls ++ [call]) := by
  cases call <;>
    simp [Call.total, add, List.filterMap_append, Call.join?, Call.order?, Call.predicate?,
      Call.offset?, Call.limit?]

/-- The joins are made on the query, and the other parts are written over what they leave. -/
def applyTo (total : CallTotal) (select : Select) : Select :=
  { Call.replay (joinCalls total.joins) select with
    clause := total.predicate.elim select.clause Prod.fst
    parameters := total.predicate.elim select.parameters Prod.snd
    orders := select.orders ++ total.orders
    offset := total.offset.or select.offset
    limit := total.limit.or select.limit }

end CallTotal

/-- A path is cut at its first point and nowhere else. -/
theorem splitPath?_eq_some {chars parent property : List Char}
    (hsplit : splitPath? chars = some (parent, property)) :
    chars = parent ++ '.' :: property ∧ '.' ∉ parent := by
  induction chars generalizing parent with
  | nil => simp [splitPath?] at hsplit
  | cons c rest ih =>
      rw [splitPath?] at hsplit
      by_cases hpoint : c = '.'
      · rw [if_pos hpoint] at hsplit
        cases hsplit
        exact ⟨by rw [hpoint]; rfl, List.not_mem_nil⟩
      · rw [if_neg hpoint, Option.map_eq_some_iff] at hsplit
        obtain ⟨⟨before, after⟩, hrest, hparts⟩ := hsplit
        cases hparts
        obtain ⟨rfl, hbefore⟩ := ih hrest
        exact ⟨rfl, List.not_mem_cons_of_ne_of_not_mem (Ne.symm hpoint) hbefore⟩

namespace Select

/-- A join neither reads nor writes the other parts. -/
theorem innerJoin_with (select : Select) (path tableAlias clause : String)
    (parameters : Parameters) (orders : List (String × String)) (offset limit : Option UInt64) :
    innerJoin { select with
        clause := clause, parameters := parameters, orders := orders, offset := offset,
        limit := limit } path tableAlias =
      { select.innerJoin path tableAlias with
        clause := clause, parameters := parameters, orders := orders, offset := offset,
        limit := limit } := by
  have hsame : relationAt? { select with
      clause := clause, parameters := parameters, orders := orders, offset := offset,
      limit := limit } path = select.relationAt? path := rfl
  rw [innerJoin, innerJoin, hsame]
  cases select.relationAt? path with
  | none => rfl
  | some found => rfl

theorem perform_applyTo (total : CallTotal) (select : Select) (call : Call) :
    Call.perform (total.applyTo select) call = (total.add call).applyTo select := by
  cases call with
  | join path tableAlias =>
      have hjoins : Call.replay (joinCalls (total.joins ++ [(path, tableAlias)])) select =
          (Call.replay (joinCalls total.joins) select).innerJoin path tableAlias := by
        rw [joinCalls, List.map_append, Call.replay_append]
        rfl
      simp only [CallTotal.applyTo, CallTotal.add, hjoins]
      exact innerJoin_with _ path tableAlias _ _ _ _ _
  | where_ clause parameters => rfl
  | order column direction =>
      simp only [CallTotal.applyTo, CallTotal.add, ← List.append_assoc]
      rfl
  | skip offset => rfl
  | take limit => rfl

/-- What calls leave of a query is told by what they come to. -/
theorem replay_eq_applyTo (calls : List Call) (select : Select) :
    Call.replay calls select = (Call.total calls).applyTo select := by
  induction calls using List.reverseRecOn with
  | nil =>
      simp [CallTotal.applyTo, Call.total, joinCalls, Call.replay_nil]
  | append_singleton calls call ih =>
      rw [Call.replay_append, ih, ← CallTotal.add_total, ← perform_applyTo]
      rfl

/-! ## Joins that find no relation -/

/-- The path leads from an alias that the query knows to a relation that the entity of the alias
declares. -/
def Resolves (select : Select) (path : String) : Prop :=
  ∃ parent property owner relation,
    path = parent ++ "." ++ property ∧ '.' ∉ parent.toList ∧
      Named.get? parent select.entities = some owner ∧
      relation ∈ select.catalog.relations owner ∧ relation.property = property

theorem isSome_relationAt?_iff {select : Select} {path : String} :
    (select.relationAt? path).isSome = true ↔ select.Resolves path := by
  constructor
  · intro hfound
    obtain ⟨⟨parent, owner, relation⟩, hfound⟩ := Option.isSome_iff_exists.mp hfound
    unfold relationAt? at hfound
    cases hsplit : splitPath? path.toList with
    | none => simp [hsplit] at hfound
    | some parts =>
        obtain ⟨before, property⟩ := parts
        obtain ⟨hpath, hpoint⟩ := splitPath?_eq_some hsplit
        simp only [hsplit, Option.bind_eq_bind, Option.bind_some, Option.bind_eq_some_iff] at hfound
        obtain ⟨known, howner, declared, hrelation, -⟩ := hfound
        obtain ⟨hdeclared, hproperty⟩ := Catalog.declared_of_relation? hrelation
        refine ⟨String.ofList before, String.ofList property, known, declared, ?_, ?_, howner,
          hdeclared, hproperty⟩
        · simp [String.ext_iff, hpath]
        · simpa using hpoint
  · rintro ⟨parent, property, owner, relation, rfl, hpoint, howner, hdeclared, hproperty⟩
    have hsome : (select.catalog.relation? owner property).isSome = true :=
      List.find?_isSome.mpr ⟨relation, hdeclared, beq_iff_eq.mpr hproperty⟩
    obtain ⟨first, hfirst⟩ := Option.isSome_iff_exists.mp hsome
    rw [relationAt?_eq hpoint howner hfirst]
    rfl

/-- Every join among the calls finds a relation when its turn comes. -/
def JoinsResolve (select : Select) (calls : List Call) : Prop :=
  ∀ before path tableAlias after, calls = before ++ .join path tableAlias :: after →
    (Call.replay before select).Resolves path

theorem joinsResolve_nil (select : Select) : select.JoinsResolve [] := by
  intro before path tableAlias after hsplit
  simp at hsplit

theorem joinsResolve_cons_iff {select : Select} {call : Call} {rest : List Call} :
    select.JoinsResolve (call :: rest) ↔
      (∀ step ∈ call.join?, select.Resolves step.1) ∧
        (Call.perform select call).JoinsResolve rest := by
  constructor
  · intro hall
    constructor
    · intro step hstep
      rw [Option.mem_def, Call.join?_eq_some_iff] at hstep
      exact hall [] step.1 step.2 rest (by rw [hstep]; rfl)
    · rintro before path tableAlias after rfl
      exact hall (call :: before) path tableAlias after rfl
  · rintro ⟨hfirst, hrest⟩ before path tableAlias after hsplit
    cases before with
    | nil =>
        have hcall : call = .join path tableAlias := List.head_eq_of_cons_eq hsplit
        exact hfirst (path, tableAlias) (by rw [hcall]; rfl)
    | cons other before =>
        rw [List.cons_append, List.cons.injEq] at hsplit
        obtain ⟨rfl, hsplit⟩ := hsplit
        exact hrest before path tableAlias after hsplit

instance (select : Select) (path : String) : Decidable (select.Resolves path) :=
  decidable_of_iff _ isSome_relationAt?_iff

instance decidableJoinsResolve :
    (calls : List Call) → (select : Select) → Decidable (select.JoinsResolve calls)
  | [], select => .isTrue select.joinsResolve_nil
  | call :: rest, select =>
      have := decidableJoinsResolve rest (Call.perform select call)
      decidable_of_iff' _ joinsResolve_cons_iff

/-- What is not resolved all through has a first join that is not resolved. -/
theorem exists_first_unresolved {select : Select} {calls : List Call}
    (hfails : ¬ select.JoinsResolve calls) :
    ∃ before path tableAlias after, calls = before ++ .join path tableAlias :: after ∧
      select.JoinsResolve before ∧ ¬ (Call.replay before select).Resolves path := by
  induction calls generalizing select with
  | nil => exact absurd select.joinsResolve_nil hfails
  | cons call rest ih =>
      by_cases hfirst : ∀ step ∈ call.join?, select.Resolves step.1
      · have hrest : ¬ (Call.perform select call).JoinsResolve rest :=
          fun hrest => hfails (joinsResolve_cons_iff.mpr ⟨hfirst, hrest⟩)
        obtain ⟨before, path, tableAlias, after, rfl, hbefore, hunresolved⟩ := ih hrest
        exact ⟨call :: before, path, tableAlias, after, rfl,
          joinsResolve_cons_iff.mpr ⟨hfirst, hbefore⟩, hunresolved⟩
      · push Not at hfirst
        obtain ⟨step, hstep, hunresolved⟩ := hfirst
        rw [Option.mem_def, Call.join?_eq_some_iff] at hstep
        exact ⟨[], step.1, step.2, rest, by rw [hstep]; rfl, select.joinsResolve_nil, hunresolved⟩

/-! ## Statements -/

/-- The relation of a join is looked up when the join is made. -/
theorem exists_target (select : Select) (path tableAlias : String) :
    ∃ target, (select.innerJoin path tableAlias).joins =
        select.joins ++ [⟨path, tableAlias, target⟩] ∧
      (target.isSome = true ↔ select.Resolves path) := by
  rw [← isSome_relationAt?_iff, innerJoin]
  cases hfound : select.relationAt? path with
  | none => exact ⟨none, rfl, by simp⟩
  | some found => exact ⟨_, rfl, by simp⟩

theorem exists_joins_perform (select : Select) (call : Call) :
    ∃ more, (Call.perform select call).joins = select.joins ++ more := by
  cases call with
  | join path tableAlias =>
      obtain ⟨target, htarget, -⟩ := select.exists_target path tableAlias
      exact ⟨_, htarget⟩
  | where_ clause parameters => exact ⟨[], (List.append_nil _).symm⟩
  | order column direction => exact ⟨[], (List.append_nil _).symm⟩
  | skip offset => exact ⟨[], (List.append_nil _).symm⟩
  | take limit => exact ⟨[], (List.append_nil _).symm⟩

/-- Later calls leave the joins as they were. -/
theorem exists_joins_replay (calls : List Call) (select : Select) :
    ∃ more, (Call.replay calls select).joins = select.joins ++ more := by
  induction calls generalizing select with
  | nil => exact ⟨[], (List.append_nil _).symm⟩
  | cons call rest ih =>
      obtain ⟨first, hfirst⟩ := select.exists_joins_perform call
      obtain ⟨more, hmore⟩ := ih (Call.perform select call)
      refine ⟨first ++ more, ?_⟩
      rw [Call.replay_cons, hmore, hfirst, List.append_assoc]

theorem resolved_replay {calls : List Call} {select : Select}
    (hselect : ∀ join ∈ select.joins, join.target.isSome = true)
    (hcalls : select.JoinsResolve calls) :
    ∀ join ∈ (Call.replay calls select).joins, join.target.isSome = true := by
  induction calls generalizing select with
  | nil => exact hselect
  | cons call rest ih =>
      obtain ⟨hfirst, hrest⟩ := joinsResolve_cons_iff.mp hcalls
      rw [Call.replay_cons]
      refine ih ?_ hrest
      cases call with
      | join path tableAlias =>
          obtain ⟨target, htarget, hiff⟩ := select.exists_target path tableAlias
          change ∀ join ∈ (select.innerJoin path tableAlias).joins, _
          rw [htarget, List.forall_mem_append, List.forall_mem_singleton]
          exact ⟨hselect, hiff.mpr (hfirst (path, tableAlias) rfl)⟩
      | where_ clause parameters => exact hselect
      | order column direction => exact hselect
      | skip offset => exact hselect
      | take limit => exact hselect

theorem joinsSql_unresolved {joins : List Join}
    (hresolved : ∀ join ∈ joins, join.target.isSome = true) (path tableAlias : String)
    (more : List Join) :
    joinsSql (joins ++ ⟨path, tableAlias, none⟩ :: more) = .error (.unresolvedJoin path) := by
  induction joins with
  | nil => rfl
  | cons join rest ih =>
      obtain ⟨hfirst, hrest⟩ := List.forall_mem_cons.mp hresolved
      obtain ⟨target, htarget⟩ := Option.isSome_iff_exists.mp hfirst
      rw [List.cons_append, joinsSql_cons htarget, ih hrest]
      rfl

theorem sql_of_joinsResolve {select : Select} {calls : List Call}
    (hselect : ∀ join ∈ select.joins, join.target.isSome = true)
    (hcalls : select.JoinsResolve calls) (backend : Backend) :
    ∃ text, (Call.replay calls select).sql backend = .ok text := by
  rw [sql_eq_map, joinsSql_eq (resolved_replay hselect hcalls)]
  exact ⟨_, rfl⟩

/-- The first join that is not resolved is the one that the statement reports. -/
theorem sql_of_first_unresolved {select : Select} {before after : List Call}
    {path tableAlias : String} (hselect : ∀ join ∈ select.joins, join.target.isSome = true)
    (hbefore : select.JoinsResolve before)
    (hunresolved : ¬ (Call.replay before select).Resolves path)
    (backend : Backend) :
    (Call.replay (before ++ .join path tableAlias :: after) select).sql backend =
      .error (.unresolvedJoin path) := by
  obtain ⟨target, htarget, hiff⟩ := (Call.replay before select).exists_target path tableAlias
  have hnone : target = none := by
    rw [← Option.not_isSome_iff_eq_none, hiff]
    exact hunresolved
  obtain ⟨more, hmore⟩ :=
    exists_joins_replay after ((Call.replay before select).innerJoin path tableAlias)
  have hjoins : (Call.replay (before ++ .join path tableAlias :: after) select).joins =
      (Call.replay before select).joins ++ ⟨path, tableAlias, none⟩ :: more := by
    rw [Call.replay_append, Call.replay_cons]
    change (Call.replay after ((Call.replay before select).innerJoin path tableAlias)).joins = _
    rw [hmore, htarget, hnone, List.append_assoc, List.singleton_append]
  rw [sql_eq_map, hjoins, joinsSql_unresolved (resolved_replay hselect hbefore)]
  rfl

/-- On a query whose joins are resolved, calls make the statement fail just where one of their joins
finds no relation. -/
theorem sql_eq_error_iff {select : Select} (calls : List Call)
    (hselect : ∀ join ∈ select.joins, join.target.isSome = true) (backend : Backend)
    (error : QueryError) :
    (Call.replay calls select).sql backend = .error error ↔
      ∃ before path tableAlias after, calls = before ++ .join path tableAlias :: after ∧
        select.JoinsResolve before ∧ ¬ (Call.replay before select).Resolves path ∧
        error = .unresolvedJoin path := by
  constructor
  · intro hsql
    have hfails : ¬ select.JoinsResolve calls := by
      intro hcalls
      obtain ⟨text, htext⟩ := sql_of_joinsResolve hselect hcalls backend
      rw [htext] at hsql
      cases hsql
    obtain ⟨before, path, tableAlias, after, rfl, hbefore, hunresolved⟩ :=
      exists_first_unresolved hfails
    rw [sql_of_first_unresolved hselect hbefore hunresolved] at hsql
    exact ⟨before, path, tableAlias, after, rfl, hbefore, hunresolved,
      (Except.error.inj hsql).symm⟩
  · rintro ⟨before, path, tableAlias, after, rfl, hbefore, hunresolved, rfl⟩
    exact sql_of_first_unresolved hselect hbefore hunresolved backend

end Select

/-! ## Order does not matter between the operations -/

/-- Calls that come to the same leave the same joins, predicate and statements, in whatever order
the operations follow each other.  The statements fail just where some join found no relation when
it was made, and report the first such join whatever comes after it. -/
theorem calls_commute_of_total_eq (catalog : Catalog) (entity tableAlias : String)
    {calls others : List Call} (htotal : Call.total calls = Call.total others) :
    let fresh := Select.ofEntity catalog entity tableAlias
    let select := Call.replay calls fresh
    let other := Call.replay others fresh
    select.joins = other.joins ∧
      (select.clause, select.parameters) = (other.clause, other.parameters) ∧
      (∀ backend, select.sql backend = other.sql backend ∧
        select.positional backend = other.positional backend) ∧
      (∀ backend, (∃ error, select.sql backend = .error error) ↔
        ∃ before path joined after, calls = before ++ .join path joined :: after ∧
          ¬ (Call.replay before fresh).Resolves path) ∧
      ∀ backend error, select.sql backend = .error error ↔
        ∃ before path joined after, calls = before ++ .join path joined :: after ∧
          fresh.JoinsResolve before ∧ ¬ (Call.replay before fresh).Resolves path ∧
          error = .unresolvedJoin path := by
  intro fresh select other
  have hsame : select = other := by
    calc
      select = (Call.total calls).applyTo fresh := Select.replay_eq_applyTo calls fresh
      _ = (Call.total others).applyTo fresh := by rw [htotal]
      _ = other := (Select.replay_eq_applyTo others fresh).symm
  have hfresh : ∀ join ∈ fresh.joins, join.target.isSome = true := by simp [fresh, Select.ofEntity]
  refine ⟨by rw [hsame], by rw [hsame], fun backend => by rw [hsame]; exact ⟨rfl, rfl⟩, ?_,
    Select.sql_eq_error_iff calls hfresh⟩
  intro backend
  constructor
  · rintro ⟨error, hsql⟩
    obtain ⟨before, path, joined, after, hsplit, -, hunresolved, -⟩ :=
      (Select.sql_eq_error_iff calls hfresh backend error).mp hsql
    exact ⟨before, path, joined, after, hsplit, hunresolved⟩
  · rintro ⟨before, path, joined, after, hsplit, hunresolved⟩
    have hfails : ¬ fresh.JoinsResolve calls :=
      fun hcalls => hunresolved (hcalls before path joined after hsplit)
    obtain ⟨before, path, joined, after, rfl, hbefore, hfirst⟩ :=
      Select.exists_first_unresolved hfails
    exact ⟨_, Select.sql_of_first_unresolved hfresh hbefore hfirst backend⟩

/-- Users have no company, so the second join finds no relation; the third is made all the same. -/
def Call.ofCompany : List Call :=
  [.take 5, .join "post_.author" "author", .where_ "author.name IS NULL" [],
    .join "author.company" "company", .order "author.name" "ASC", .take 10,
    .join "author.posts" "posts"]

/-- The same joins before everything else, and a predicate that is replaced. -/
def Call.ofCompanySorted : List Call :=
  [.join "post_.author" "author", .join "author.company" "company", .join "author.posts" "posts",
    .where_ "company.name IS NULL" [], .where_ "author.name IS NULL" [], .take 10,
    .order "author.name" "ASC"]

theorem calls_commute_of_total_eq_of_company :
    let fresh := Select.ofEntity .ofBlog "Post" "post_"
    Call.total Call.ofCompany = Call.total Call.ofCompanySorted ∧
      (Call.replay Call.ofCompany fresh).joins.map Join.target =
        [some ⟨"users", "author.id = post_.author_id"⟩, none,
          some ⟨"posts", "posts.user_id = author.id"⟩] ∧
      (Call.replay Call.ofCompanySorted fresh).sql .postgres =
        .error (.unresolvedJoin "author.company") := by
  intro fresh
  have htotal : Call.total Call.ofCompany = Call.total Call.ofCompanySorted := rfl
  obtain ⟨hjoins, -, hstatements, -, hfails⟩ :=
    calls_commute_of_total_eq .ofBlog "Post" "post_" htotal
  refine ⟨htotal, by rw [hjoins]; decide, ?_⟩
  rw [← (hstatements .postgres).1, hfails]
  refine ⟨Call.ofCompany.take 3, "author.company", "company", Call.ofCompany.drop 4, rfl, ?_, ?_,
    rfl⟩
  · decide
  · decide

end FilterQuery
