import FilterQuery.Query.Generate

/-!
# The calls of a request

A request acts on a query only through the five builder operations.  The calls it makes are fixed
by the request, the alias and the relation map before any query is looked at: this file lists them
as data and shows that applying the request is performing them in their order, on every builder.
-/

namespace FilterQuery

variable {σ : Type} [QueryBuilder σ]

namespace Call

theorem replay_nil (query : σ) : replay [] query = query := rfl

theorem replay_cons (call : Call) (calls : List Call) (query : σ) :
    replay (call :: calls) query = replay calls (perform query call) := rfl

theorem replay_append (calls more : List Call) (query : σ) :
    replay (calls ++ more) query = replay more (replay calls query) :=
  List.foldl_append

/-- The builder that writes calls down writes down exactly the calls replayed on it. -/
theorem replay_recording (calls : List Call) (recording : Recording) :
    replay calls recording = ⟨recording.calls ++ calls⟩ := by
  induction calls generalizing recording with
  | nil => simp [replay_nil]
  | cons call rest ih =>
      have hperform : perform recording call = ⟨recording.calls ++ [call]⟩ := by
        cases call <;> rfl
      rw [replay_cons, hperform, ih, List.append_assoc, List.singleton_append]

end Call

/-! ## Joins -/

mutual

/-- The relations that a filter mentions, as the paths and aliases of their joins, in document
order and as often as they are mentioned. -/
def Filter.joinSteps (tableAlias : String) (relations : RelationMap) :
    Filter → List (String × String)
  | .ofEntries entries => entriesJoinSteps tableAlias relations entries
termination_by structural filter => filter

def FilterValue.joinSteps (tableAlias : String) (relations : RelationMap) (key : String) :
    FilterValue → List (String × String)
  | .combinator _ branches => branchesJoinSteps tableAlias relations branches
  | .mapping nested _ =>
      match relations.get? key with
      | some inner => (tableAlias ++ "." ++ key, key) :: nested.joinSteps key inner
      | none => []
  | .sequence _ => if relations.contains key then [(tableAlias ++ "." ++ key, key)] else []
  | .scalar _ => if relations.contains key then [(tableAlias ++ "." ++ key, key)] else []
termination_by structural value => value

def entriesJoinSteps (tableAlias : String) (relations : RelationMap) :
    List (String × FilterValue) → List (String × String)
  | [] => []
  | (key, value) :: rest =>
      value.joinSteps tableAlias relations key ++ entriesJoinSteps tableAlias relations rest
termination_by structural entries => entries

def branchesJoinSteps (tableAlias : String) (relations : RelationMap) :
    List Filter → List (String × String)
  | [] => []
  | branch :: rest =>
      branch.joinSteps tableAlias relations ++ branchesJoinSteps tableAlias relations rest
termination_by structural branches => branches

end

/-- The steps that are not registered, each once and in the order of their first mention. -/
def newSteps (registered : List (String × String)) :
    List (String × String) → List (String × String)
  | [] => []
  | step :: rest =>
      if registered.contains step then newSteps registered rest
      else step :: newSteps (registered ++ [step]) rest

namespace JoinPlan

def add (plan : JoinPlan σ) (step : String × String) : JoinPlan σ :=
  if plan.registered.contains step then plan
  else ⟨plan.registered ++ [step], QueryBuilder.innerJoin plan.query step.1 step.2⟩

theorem register_eq_add (plan : JoinPlan σ) (tableAlias key : String) :
    plan.register tableAlias key = plan.add (tableAlias ++ "." ++ key, key) := by
  simp only [register, add, List.contains_iff_mem]

end JoinPlan

mutual

theorem Filter.planJoins_eq_foldl (tableAlias : String) (relations : RelationMap) :
    (filter : Filter) → (plan : JoinPlan σ) →
      filter.planJoins tableAlias relations plan =
        (filter.joinSteps tableAlias relations).foldl JoinPlan.add plan
  | .ofEntries entries, plan => by
      rw [Filter.planJoins, Filter.joinSteps]
      exact planEntries_eq_foldl tableAlias relations entries plan
termination_by structural filter => filter

theorem FilterValue.planJoins_eq_foldl (tableAlias : String) (relations : RelationMap)
    (key : String) :
    (value : FilterValue) → (plan : JoinPlan σ) →
      value.planJoins tableAlias relations key plan =
        (value.joinSteps tableAlias relations key).foldl JoinPlan.add plan
  | .combinator combinator branches, plan => by
      rw [FilterValue.planJoins, FilterValue.joinSteps]
      exact planBranches_eq_foldl tableAlias relations branches plan
  | .mapping nested members, plan => by
      rw [FilterValue.planJoins, FilterValue.joinSteps]
      cases relations.get? key with
      | none => rfl
      | some inner =>
          rw [JoinPlan.register_eq_add]
          exact nested.planJoins_eq_foldl key inner _
  | .sequence items, plan => by
      rw [FilterValue.planJoins, FilterValue.joinSteps, JoinPlan.register_eq_add]
      cases relations.contains key <;> rfl
  | .scalar value, plan => by
      rw [FilterValue.planJoins, FilterValue.joinSteps, JoinPlan.register_eq_add]
      cases relations.contains key <;> rfl
termination_by structural value => value

theorem planEntries_eq_foldl (tableAlias : String) (relations : RelationMap) :
    (entries : List (String × FilterValue)) → (plan : JoinPlan σ) →
      planEntries tableAlias relations entries plan =
        (entriesJoinSteps tableAlias relations entries).foldl JoinPlan.add plan
  | [], plan => rfl
  | (key, value) :: rest, plan => by
      rw [planEntries, entriesJoinSteps, List.foldl_append,
        value.planJoins_eq_foldl tableAlias relations key plan]
      exact planEntries_eq_foldl tableAlias relations rest _
termination_by structural entries => entries

theorem planBranches_eq_foldl (tableAlias : String) (relations : RelationMap) :
    (branches : List Filter) → (plan : JoinPlan σ) →
      planBranches tableAlias relations branches plan =
        (branchesJoinSteps tableAlias relations branches).foldl JoinPlan.add plan
  | [], plan => rfl
  | branch :: rest, plan => by
      rw [planBranches, branchesJoinSteps, List.foldl_append,
        branch.planJoins_eq_foldl tableAlias relations plan]
      exact planBranches_eq_foldl tableAlias relations rest _
termination_by structural branches => branches

end

def joinCalls (steps : List (String × String)) : List Call :=
  steps.map fun step => .join step.1 step.2

theorem JoinPlan.foldl_add (steps : List (String × String)) (plan : JoinPlan σ) :
    steps.foldl JoinPlan.add plan =
      ⟨plan.registered ++ newSteps plan.registered steps,
        Call.replay (joinCalls (newSteps plan.registered steps)) plan.query⟩ := by
  induction steps generalizing plan with
  | nil => simp [newSteps, joinCalls, Call.replay_nil]
  | cons step rest ih =>
      rw [List.foldl_cons, ih, newSteps, JoinPlan.add]
      by_cases hmem : plan.registered.contains step = true
      · rw [if_pos hmem, if_pos hmem]
      · rw [if_neg hmem, if_neg hmem]
        simp only [joinCalls, List.map_cons, Call.replay_cons, Call.perform, List.append_assoc,
          List.singleton_append]

def Filter.joinCalls (filter : Filter) (tableAlias : String) (relations : RelationMap) :
    List Call :=
  FilterQuery.joinCalls (newSteps [] (filter.joinSteps tableAlias relations))

theorem Filter.joinRelations_eq_replay (filter : Filter) (tableAlias : String)
    (relations : RelationMap) (query : σ) :
    filter.joinRelations tableAlias relations query =
      ((filter.joinCalls tableAlias relations).length,
        Call.replay (filter.joinCalls tableAlias relations) query) := by
  rw [Filter.joinRelations, filter.planJoins_eq_foldl, JoinPlan.foldl_add]
  simp [Filter.joinCalls, FilterQuery.joinCalls]

/-! ## Orders -/

def relationOrderCalls (key : String) : List (String × OrderValue) → List Call
  | [] => []
  | (column, .direction text) :: rest =>
      .order (key ++ "." ++ column) text :: relationOrderCalls key rest
  | (_, .nested _) :: rest => relationOrderCalls key rest

def entriesOrderCalls (tableAlias : String) (relations : RelationMap) :
    List (String × OrderValue) → List Call
  | [] => []
  | (key, .direction text) :: rest =>
      .order (tableAlias ++ "." ++ key) text :: entriesOrderCalls tableAlias relations rest
  | (key, .nested inner) :: rest =>
      (if relations.contains key then relationOrderCalls key inner.entries else []) ++
        entriesOrderCalls tableAlias relations rest

theorem exists_order_of_mem_relationOrderCalls {key : String}
    {entries : List (String × OrderValue)} {call : Call}
    (hmem : call ∈ relationOrderCalls key entries) :
    ∃ column direction, call = .order column direction := by
  induction entries with
  | nil => exact absurd hmem List.not_mem_nil
  | cons entry rest ih =>
      obtain ⟨column, value⟩ := entry
      cases value with
      | direction text =>
          rw [relationOrderCalls, List.mem_cons] at hmem
          rcases hmem with heq | hrest
          · exact ⟨key ++ "." ++ column, text, heq⟩
          · exact ih hrest
      | nested inner =>
          rw [relationOrderCalls] at hmem
          exact ih hmem

theorem exists_order_of_mem_entriesOrderCalls {tableAlias : String} {relations : RelationMap}
    {entries : List (String × OrderValue)} {call : Call}
    (hmem : call ∈ entriesOrderCalls tableAlias relations entries) :
    ∃ column direction, call = .order column direction := by
  induction entries with
  | nil => exact absurd hmem List.not_mem_nil
  | cons entry rest ih =>
      obtain ⟨key, value⟩ := entry
      cases value with
      | direction text =>
          rw [entriesOrderCalls, List.mem_cons] at hmem
          rcases hmem with heq | hrest
          · exact ⟨tableAlias ++ "." ++ key, text, heq⟩
          · exact ih hrest
      | nested inner =>
          rw [entriesOrderCalls, List.mem_append] at hmem
          rcases hmem with hfirst | hrest
          · split at hfirst
            · exact exists_order_of_mem_relationOrderCalls hfirst
            · exact absurd hfirst List.not_mem_nil
          · exact ih hrest

theorem orderByRelation_eq_replay (key : String) (query : σ)
    (entries : List (String × OrderValue)) :
    orderByRelation key query entries = Call.replay (relationOrderCalls key entries) query := by
  induction entries generalizing query with
  | nil => rfl
  | cons entry rest ih =>
      obtain ⟨column, value⟩ := entry
      cases value with
      | direction text =>
          rw [orderByRelation, relationOrderCalls, Call.replay_cons, ih]
          rfl
      | nested inner =>
          rw [orderByRelation, relationOrderCalls, ih]

theorem Order.applyEntries_eq_replay (tableAlias : String) (relations : RelationMap) (query : σ)
    (entries : List (String × OrderValue)) :
    Order.applyEntries tableAlias relations query entries =
      Call.replay (entriesOrderCalls tableAlias relations entries) query := by
  induction entries generalizing query with
  | nil => rfl
  | cons entry rest ih =>
      obtain ⟨key, value⟩ := entry
      cases value with
      | direction text =>
          rw [Order.applyEntries, entriesOrderCalls, Call.replay_cons, ih]
          rfl
      | nested inner =>
          rw [Order.applyEntries, entriesOrderCalls, Call.replay_append, ih,
            orderByRelation_eq_replay]
          cases relations.contains key <;> rfl

/-! ## Requests -/

namespace Request

def filterCalls (request : Request) (tableAlias : String) (relations : RelationMap) :
    List Call :=
  match request.filter with
  | none => []
  | some filter =>
      let compiled := filter.compile tableAlias relations 0
      filter.joinCalls tableAlias relations ++ [.where_ compiled.text compiled.parameters]

def orderCalls (request : Request) (tableAlias : String) (relations : RelationMap) :
    List Call :=
  match request.order with
  | none => []
  | some order => entriesOrderCalls tableAlias relations order.entries

def paginationCalls (request : Request) : List Call :=
  match request.pagination with
  | none => []
  | some pagination => [.skip pagination.window.offset, .take pagination.window.limit]

theorem exists_order_of_mem_orderCalls {request : Request} {tableAlias : String}
    {relations : RelationMap} {call : Call}
    (hmem : call ∈ request.orderCalls tableAlias relations) :
    ∃ column direction, call = .order column direction := by
  unfold orderCalls at hmem
  cases horder : request.order with
  | none =>
      rw [horder] at hmem
      exact absurd hmem List.not_mem_nil
  | some order =>
      rw [horder] at hmem
      exact exists_order_of_mem_entriesOrderCalls hmem

theorem exists_window_of_mem_paginationCalls {request : Request} {call : Call}
    (hmem : call ∈ request.paginationCalls) :
    (∃ offset, call = .skip offset) ∨ ∃ limit, call = .take limit := by
  unfold paginationCalls at hmem
  cases hpagination : request.pagination with
  | none =>
      rw [hpagination] at hmem
      exact absurd hmem List.not_mem_nil
  | some pagination =>
      rw [hpagination] at hmem
      simp only [List.mem_cons, List.not_mem_nil, or_false] at hmem
      exact hmem.imp (⟨_, ·⟩) (⟨_, ·⟩)

def calls (request : Request) (tableAlias : String) (relations : RelationMap) : List Call :=
  request.filterCalls tableAlias relations ++
    (request.orderCalls tableAlias relations ++ request.paginationCalls)

/-- After the calls of the filter there are only orders and the two ends of the window. -/
theorem forall_laterCalls {holds : Call → Prop} (request : Request) (tableAlias : String)
    (relations : RelationMap) (horder : ∀ column direction, holds (.order column direction))
    (hskip : ∀ offset, holds (.skip offset)) (htake : ∀ limit, holds (.take limit)) :
    ∀ call ∈ request.orderCalls tableAlias relations ++ request.paginationCalls, holds call := by
  intro call hmem
  rcases List.mem_append.mp hmem with hordered | hwindow
  · obtain ⟨column, direction, rfl⟩ := exists_order_of_mem_orderCalls hordered
    exact horder column direction
  · rcases exists_window_of_mem_paginationCalls hwindow with ⟨offset, rfl⟩ | ⟨limit, rfl⟩
    · exact hskip offset
    · exact htake limit

/-- A request is applied by performing its calls. -/
theorem apply_eq_replay (request : Request) (tableAlias : String) (relations : RelationMap)
    (query : σ) :
    request.apply tableAlias relations query =
      Call.replay (request.calls tableAlias relations) query := by
  have hfilter : request.applyFilter tableAlias relations query =
      Call.replay (request.filterCalls tableAlias relations) query := by
    unfold applyFilter filterCalls
    cases request.filter with
    | none => rfl
    | some filter =>
        simp only [filter.joinRelations_eq_replay, Call.replay_append]
        rfl
  have horder (before : σ) : request.applyOrder tableAlias relations before =
      Call.replay (request.orderCalls tableAlias relations) before := by
    unfold applyOrder orderCalls
    cases request.order with
    | none => rfl
    | some order => exact Order.applyEntries_eq_replay tableAlias relations before order.entries
  have hpagination (before : σ) : request.applyPagination before =
      Call.replay request.paginationCalls before := by
    unfold applyPagination paginationCalls
    cases request.pagination <;> rfl
  rw [apply, hfilter, horder, hpagination, calls, Call.replay_append, Call.replay_append]

end Request

theorem generate_eq_replay (query : σ) (tableAlias : String) (request : Request)
    (root : Option (Catalog × String)) :
    generate (some query) tableAlias request root =
      .ok (Call.replay (request.calls tableAlias (rootRelations root)) query) := by
  rw [generate, Request.apply_eq_replay]

end FilterQuery
