import FilterQuery.Proofs.JoinScope
import FilterQuery.Proofs.RelationMentions

/-!
# Requests on select queries

Of all calls only joins change the joins of a select query, and no call changes its root.  The joins
of a query that a request was applied to are therefore the joins that the request plans.
-/

namespace FilterQuery

def Call.isJoin : Call → Bool
  | .join _ _ => true
  | _ => false

theorem exists_of_map_eq_ok {ε α β : Type} {f : α → β} {result : Except ε α} {value : β}
    (hmap : result.map f = .ok value) : ∃ inner, result = .ok inner ∧ f inner = value := by
  cases result with
  | error problem => cases hmap
  | ok inner => exact ⟨inner, rfl, Except.ok.inj hmap⟩

/-- The text of a join in a statement.  There is none for a join that matches no relation. -/
def Join.sql (join : Join) : String :=
  match join.target with
  | some target =>
      " INNER JOIN " ++ target.table ++ " " ++ join.tableAlias ++ " ON " ++ target.condition
  | none => ""

namespace Select

theorem joinsSql_eq {joins : List Join}
    (hresolved : ∀ join ∈ joins, join.target.isSome = true) :
    joinsSql joins = .ok (Text.joined "" (joins.map Join.sql)) := by
  induction joins with
  | nil => rfl
  | cons join rest ih =>
      obtain ⟨hfirst, hrest⟩ := List.forall_mem_cons.mp hresolved
      obtain ⟨target, htarget⟩ := Option.isSome_iff_exists.mp hfirst
      rw [joinsSql_cons htarget, ih hrest, List.map_cons, Text.joined_empty_cons, Join.sql,
        htarget]
      rfl

theorem resolved_of_joinsSql {joins : List Join} {text : String}
    (hsql : joinsSql joins = .ok text) : ∀ join ∈ joins, join.target.isSome = true := by
  induction joins generalizing text with
  | nil => simp
  | cons join rest ih =>
      cases htarget : join.target with
      | none =>
          rw [joinsSql, htarget] at hsql
          cases hsql
      | some target =>
          rw [joinsSql_cons htarget] at hsql
          obtain ⟨others, hrest, -⟩ := exists_of_map_eq_ok hsql
          exact List.forall_mem_cons.mpr ⟨Option.isSome_of_eq_some htarget, ih hrest⟩

/-- The paths and aliases of the joins, whether they match a relation or not. -/
def registered (select : Select) : List (String × String) :=
  select.joins.map fun join => (join.path, join.tableAlias)

theorem registered_innerJoin (select : Select) (path tableAlias : String) :
    (select.innerJoin path tableAlias).registered = select.registered ++ [(path, tableAlias)] := by
  unfold innerJoin
  split
  · simp [registered]
  · simp [registered]

theorem root_perform (select : Select) (call : Call) :
    (Call.perform select call).rootAlias = select.rootAlias ∧
      (Call.perform select call).rootTable = select.rootTable := by
  cases call with
  | join path tableAlias =>
      simp only [Call.perform, QueryBuilder.innerJoin, innerJoin]
      cases select.relationAt? path <;> exact ⟨rfl, rfl⟩
  | where_ clause parameters => exact ⟨rfl, rfl⟩
  | order column direction => exact ⟨rfl, rfl⟩
  | skip offset => exact ⟨rfl, rfl⟩
  | take limit => exact ⟨rfl, rfl⟩

theorem root_replay (calls : List Call) (select : Select) :
    (Call.replay calls select).rootAlias = select.rootAlias ∧
      (Call.replay calls select).rootTable = select.rootTable := by
  induction calls generalizing select with
  | nil => exact ⟨rfl, rfl⟩
  | cons call rest ih =>
      have hfirst := select.root_perform call
      have hrest := ih (Call.perform select call)
      rw [Call.replay_cons]
      exact ⟨hrest.1.trans hfirst.1, hrest.2.trans hfirst.2⟩

theorem joins_replay {calls : List Call} (hcalls : ∀ call ∈ calls, call.isJoin = false)
    (select : Select) : (Call.replay calls select).joins = select.joins := by
  induction calls generalizing select with
  | nil => rfl
  | cons call rest ih =>
      have hfirst : (Call.perform select call).joins = select.joins := by
        cases call with
        | join path tableAlias => exact absurd (hcalls _ List.mem_cons_self) (by simp [Call.isJoin])
        | where_ clause parameters => rfl
        | order column direction => rfl
        | skip offset => rfl
        | take limit => rfl
      rw [Call.replay_cons, ih (fun other hmem => hcalls other (List.mem_cons_of_mem _ hmem)),
        hfirst]

theorem registered_replay (steps : List (String × String)) (select : Select) :
    (Call.replay (joinCalls steps) select).registered = select.registered ++ steps := by
  induction steps generalizing select with
  | nil => exact (List.append_nil _).symm
  | cons step rest ih =>
      have hcalls : Call.replay (joinCalls (step :: rest)) select =
          Call.replay (joinCalls rest) (select.innerJoin step.1 step.2) := rfl
      rw [hcalls, ih, select.registered_innerJoin, List.append_assoc, List.singleton_append]

end Select

namespace Request

/-- The joins that a request plans, as paths and aliases. -/
def plannedJoins (request : Request) (tableAlias : String) (relations : RelationMap) :
    List (String × String) :=
  request.filter.elim [] fun filter => newSteps [] (filter.joinSteps tableAlias relations)

/-- The filter of the request mentions the relation `key` at the end of the path. -/
def Mentions (request : Request) (relations : RelationMap) (path : List String)
    (key : String) : Prop :=
  ∃ filter, request.filter = some filter ∧ filter.Mentions relations path key

theorem mem_plannedJoins_iff {request : Request} {tableAlias : String} {relations : RelationMap}
    {step : String × String} :
    step ∈ request.plannedJoins tableAlias relations ↔
      ∃ path key, request.Mentions relations path key ∧
        step = mentionStep tableAlias path key := by
  unfold plannedJoins Mentions
  cases request.filter with
  | none => simp
  | some filter => simp [mem_newSteps, Filter.mem_joinSteps_iff]

theorem Mentions.mem_plannedJoins {request : Request} {relations : RelationMap}
    {path : List String} {key : String} (hmention : request.Mentions relations path key)
    (tableAlias : String) :
    mentionStep tableAlias path key ∈ request.plannedJoins tableAlias relations :=
  mem_plannedJoins_iff.mpr ⟨path, key, hmention, rfl⟩

theorem mem_plannedAliases_iff {request : Request} {rootAlias : String} {relations : RelationMap}
    {name : String} :
    name ∈ (request.plannedJoins rootAlias relations).map Prod.snd ↔
      ∃ path, request.Mentions relations path name := by
  rw [List.mem_map]
  constructor
  · rintro ⟨step, hstep, rfl⟩
    obtain ⟨path, key, hmention, rfl⟩ := mem_plannedJoins_iff.mp hstep
    exact ⟨path, hmention⟩
  · rintro ⟨path, hmention⟩
    exact ⟨_, hmention.mem_plannedJoins rootAlias, rfl⟩

theorem nodup_plannedJoins (request : Request) (tableAlias : String) (relations : RelationMap) :
    (request.plannedJoins tableAlias relations).Nodup := by
  unfold plannedJoins
  cases request.filter with
  | none => exact List.nodup_nil
  | some filter => exact nodup_newSteps [] _

theorem plannedJoins_inScope (request : Request) (tableAlias : String)
    (relations : RelationMap) :
    JoinsInScope [tableAlias] (request.plannedJoins tableAlias relations) := by
  unfold plannedJoins
  cases request.filter with
  | none => exact .nil
  | some filter =>
      exact (filter.joinSteps_inScope tableAlias relations).newSteps (List.nil_subset _)

/-- The calls of a request are its joins and calls that make no join. -/
theorem exists_calls_eq (request : Request) (tableAlias : String) (relations : RelationMap) :
    ∃ others : List Call, (∀ call ∈ others, call.isJoin = false) ∧
      request.calls tableAlias relations =
        joinCalls (request.plannedJoins tableAlias relations) ++ others := by
  have hlast : ∀ call ∈ request.orderCalls tableAlias relations ++ request.paginationCalls,
      call.isJoin = false :=
    request.forall_laterCalls tableAlias relations (fun _ _ => rfl) (fun _ => rfl) fun _ => rfl
  unfold calls filterCalls plannedJoins
  cases request.filter with
  | none => exact ⟨_, hlast, rfl⟩
  | some filter =>
      let compiled := filter.compile tableAlias relations 0
      let others := request.orderCalls tableAlias relations ++ request.paginationCalls
      refine ⟨.where_ compiled.text compiled.parameters :: others, ?_, ?_⟩
      · exact List.forall_mem_cons.mpr ⟨rfl, hlast⟩
      · rw [List.append_assoc]
        rfl

theorem joins_apply (request : Request) (tableAlias : String) (relations : RelationMap)
    (select : Select) :
    (request.apply tableAlias relations select).joins =
      (Call.replay (joinCalls (request.plannedJoins tableAlias relations)) select).joins := by
  obtain ⟨others, hothers, hcalls⟩ := request.exists_calls_eq tableAlias relations
  rw [request.apply_eq_replay, hcalls, Call.replay_append, Select.joins_replay hothers]

theorem registered_apply (request : Request) (tableAlias : String) (relations : RelationMap)
    (select : Select) :
    (request.apply tableAlias relations select).registered =
      select.registered ++ request.plannedJoins tableAlias relations := by
  rw [Select.registered, request.joins_apply, ← Select.registered, Select.registered_replay]

theorem root_apply (request : Request) (tableAlias : String) (relations : RelationMap)
    (select : Select) :
    (request.apply tableAlias relations select).rootAlias = select.rootAlias ∧
      (request.apply tableAlias relations select).rootTable = select.rootTable := by
  rw [request.apply_eq_replay]
  exact Select.root_replay _ select

end Request

end FilterQuery
