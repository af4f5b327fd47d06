import FilterQuery.Proofs.PositionalRendering
import FilterQuery.Proofs.SelectCalls

/-!
# The sections of a request

The calls of a request fall into four sections, one behind the other: the joins of its filter, the
predicate, the terms of its order and the window of rows.  Each section depends on one part of the
request and changes one part of a select query, so that what a request leaves out stays as it was.
-/

namespace FilterQuery

/-! ## Terms of an order -/

/-- A column with the direction in which it orders. -/
structure OrderTerm where
  column : Column
  direction : String
  deriving DecidableEq, Repr

def OrderTerm.call (term : OrderTerm) : Call :=
  .order term.column.text term.direction

/-- The term of a column of the qualifier, if the entry gives it a direction. -/
def directTerm? (qualifier : String) : String × OrderValue → Option OrderTerm
  | (name, .direction text) => some ⟨⟨qualifier, name⟩, text⟩
  | (_, .nested _) => none

/-- The terms of an entry.  Nested orders count one level deep, and only under relations. -/
def entryTerms (tableAlias : String) (relations : RelationMap) :
    String × OrderValue → List OrderTerm
  | (key, .direction text) => [⟨⟨tableAlias, key⟩, text⟩]
  | (key, .nested inner) =>
      if relations.contains key then inner.entries.filterMap (directTerm? key) else []

def Order.terms (order : Order) (tableAlias : String) (relations : RelationMap) :
    List OrderTerm :=
  order.entries.flatMap (entryTerms tableAlias relations)

theorem relationOrderCalls_eq_map (key : String) (entries : List (String × OrderValue)) :
    relationOrderCalls key entries =
      (entries.filterMap (directTerm? key)).map OrderTerm.call := by
  induction entries with
  | nil => rfl
  | cons entry rest ih =>
      obtain ⟨name, value⟩ := entry
      cases value with
      | direction text =>
          rw [relationOrderCalls, ih]
          rfl
      | nested inner =>
          rw [relationOrderCalls, ih]
          rfl

theorem entriesOrderCalls_eq_map (tableAlias : String) (relations : RelationMap)
    (entries : List (String × OrderValue)) :
    entriesOrderCalls tableAlias relations entries =
      (entries.flatMap (entryTerms tableAlias relations)).map OrderTerm.call := by
  induction entries with
  | nil => rfl
  | cons entry rest ih =>
      obtain ⟨key, value⟩ := entry
      cases value with
      | direction text =>
          rw [entriesOrderCalls, ih]
          rfl
      | nested inner =>
          rw [entriesOrderCalls, List.flatMap_cons, List.map_append, ih, entryTerms,
            relationOrderCalls_eq_map]
          cases relations.contains key <;> rfl

/-! ## Sections -/

/-- The calls of a request by their sections.  The joins are kept as paths and aliases. -/
structure CallSections where
  joins : List (String × String)
  predicate : Option (String × Parameters)
  orders : List OrderTerm
  window : Option Window

namespace CallSections

def predicateCalls (sections : CallSections) : List Call :=
  sections.predicate.elim [] fun (clause, parameters) => [.where_ clause parameters]

def windowCalls (sections : CallSections) : List Call :=
  sections.window.elim [] fun window => [.skip window.offset, .take window.limit]

def calls (sections : CallSections) : List Call :=
  joinCalls sections.joins ++
    (sections.predicateCalls ++ (sections.orders.map OrderTerm.call ++ sections.windowCalls))

end CallSections

namespace Request

def sections (request : Request) (tableAlias : String) (relations : RelationMap) :
    CallSections where
  joins := request.plannedJoins tableAlias relations
  predicate := request.filter.map fun filter =>
    let compiled := filter.compile tableAlias relations 0
    (compiled.text, compiled.parameters)
  orders := request.order.elim [] fun order => order.terms tableAlias relations
  window := request.pagination.map Pagination.window

theorem filterCalls_eq (request : Request) (tableAlias : String) (relations : RelationMap) :
    request.filterCalls tableAlias relations =
      joinCalls (request.sections tableAlias relations).joins ++
        (request.sections tableAlias relations).predicateCalls := by
  unfold filterCalls sections CallSections.predicateCalls plannedJoins
  cases request.filter <;> rfl

theorem orderCalls_eq (request : Request) (tableAlias : String) (relations : RelationMap) :
    request.orderCalls tableAlias relations =
      (request.sections tableAlias relations).orders.map OrderTerm.call := by
  unfold orderCalls sections
  cases request.order with
  | none => rfl
  | some order => exact entriesOrderCalls_eq_map tableAlias relations order.entries

theorem paginationCalls_eq (request : Request) (tableAlias : String) (relations : RelationMap) :
    request.paginationCalls = (request.sections tableAlias relations).windowCalls := by
  unfold paginationCalls sections CallSections.windowCalls
  cases request.pagination <;> rfl

theorem calls_eq_sections (request : Request) (tableAlias : String) (relations : RelationMap) :
    request.calls tableAlias relations = (request.sections tableAlias relations).calls := by
  rw [calls, filterCalls_eq, orderCalls_eq, paginationCalls_eq _ tableAlias relations,
    List.append_assoc, CallSections.calls]

theorem sections_of_filter_none {request : Request} (hfilter : request.filter = none)
    (tableAlias : String) (relations : RelationMap) :
    (request.sections tableAlias relations).joins = [] ∧
      (request.sections tableAlias relations).predicate = none := by
  simp [sections, plannedJoins, hfilter]

theorem sections_of_order_none {request : Request} (horder : request.order = none)
    (tableAlias : String) (relations : RelationMap) :
    (request.sections tableAlias relations).orders = [] := by
  simp [sections, horder]

theorem sections_of_pagination_none {request : Request} (hpagination : request.pagination = none)
    (tableAlias : String) (relations : RelationMap) :
    (request.sections tableAlias relations).window = none := by
  simp [sections, hpagination]

end Request

theorem generate_eq_sections {σ : Type} [QueryBuilder σ] (query : σ) (tableAlias : String)
    (request : Request) (root : Option (Catalog × String)) :
    generate (some query) tableAlias request root =
      .ok (Call.replay (request.sections tableAlias (rootRelations root)).calls query) := by
  rw [generate_eq_replay, request.calls_eq_sections]

/-! ## Sections of a select query -/

namespace Select

/-- Joins change nothing but the joins and the entities behind the aliases. -/
theorem replay_joinCalls (steps : List (String × String)) (select : Select) :
    ∃ entities joins,
      Call.replay (joinCalls steps) select =
        { select with entities := entities, joins := joins } := by
  induction steps generalizing select with
  | nil => exact ⟨select.entities, select.joins, rfl⟩
  | cons step rest ih =>
      have hstep : ∃ entities joins, select.innerJoin step.1 step.2 =
          { select with entities := entities, joins := joins } := by
        unfold innerJoin
        cases select.relationAt? step.1 with
        | none => exact ⟨select.entities, _, rfl⟩
        | some found => exact ⟨_, _, rfl⟩
      obtain ⟨entities, joins, hfirst⟩ := hstep
      obtain ⟨entities', joins', hrest⟩ := ih (select.innerJoin step.1 step.2)
      refine ⟨entities', joins', ?_⟩
      have hcalls : Call.replay (joinCalls (step :: rest)) select =
          Call.replay (joinCalls rest) (select.innerJoin step.1 step.2) := rfl
      rw [hcalls, hrest, hfirst]

theorem replay_orderCalls (terms : List OrderTerm) (select : Select) :
    Call.replay (terms.map OrderTerm.call) select =
      { select with
        orders := select.orders ++ terms.map fun term => (term.column.text, term.direction) } := by
  induction terms generalizing select with
  | nil => simp [Call.replay_nil]
  | cons term rest ih =>
      rw [List.map_cons, Call.replay_cons, ih]
      simp [Call.perform, OrderTerm.call, QueryBuilder.addOrder]

end Select

namespace CallSections

variable (sections : CallSections) (select : Select)

theorem replay_predicateCalls :
    Call.replay sections.predicateCalls select =
      { select with
        clause := sections.predicate.elim select.clause Prod.fst
        parameters := sections.predicate.elim select.parameters Prod.snd } := by
  unfold predicateCalls
  cases sections.predicate <;> rfl

theorem replay_windowCalls :
    Call.replay sections.windowCalls select =
      { select with
        offset := sections.window.elim select.offset fun window => some window.offset
        limit := sections.window.elim select.limit fun window => some window.limit } := by
  unfold windowCalls
  cases sections.window <;> rfl

/-- Every section changes its own part of a select query. -/
theorem replay_calls :
    ∃ entities joins,
      Call.replay (joinCalls sections.joins) select =
          { select with entities := entities, joins := joins } ∧
        Call.replay sections.calls select =
          { select with
            entities := entities
            joins := joins
            clause := sections.predicate.elim select.clause Prod.fst
            parameters := sections.predicate.elim select.parameters Prod.snd
            orders := select.orders ++
              sections.orders.map fun term => (term.column.text, term.direction)
            offset := sections.window.elim select.offset fun window => some window.offset
            limit := sections.window.elim select.limit fun window => some window.limit } := by
  obtain ⟨entities, joins, hjoins⟩ := select.replay_joinCalls sections.joins
  refine ⟨entities, joins, hjoins, ?_⟩
  rw [calls, Call.replay_append, hjoins, Call.replay_append, replay_predicateCalls,
    Call.replay_append, Select.replay_orderCalls, replay_windowCalls]

end CallSections

/-! ## A request is one list of calls -/

/-- Whatever the builder and its state are, a request performs one and the same list of calls: the
joins and the predicate of its filter, the terms of its order, and the window of its pagination.  A
select query keeps the parts that the request leaves out, and a filter replaces its predicate. -/
theorem generate_replays_sections (tableAlias : String) (request : Request)
    (root : Option (Catalog × String)) :
    ∃ sections : CallSections,
      (∀ (σ : Type) [QueryBuilder σ] (query : σ),
        generate (some query) tableAlias request root = .ok (Call.replay sections.calls query)) ∧
      (request.filter = none → sections.joins = []) ∧
      sections.joins.Nodup ∧
      sections.predicate = request.filter.map (fun filter =>
        let compiled := filter.compile tableAlias (rootRelations root) 0
        (compiled.text, compiled.parameters)) ∧
      (request.order = none → sections.orders = []) ∧
      sections.window = request.pagination.map Pagination.window ∧
      ∀ select : Select, ∃ after : Select,
        generate (some select) tableAlias request root = .ok after ∧
        (request.filter = none →
          after.entities = select.entities ∧ after.joins = select.joins ∧
            after.clause = select.clause ∧ after.parameters = select.parameters) ∧
        (∀ filter, request.filter = some filter →
          let compiled := filter.compile tableAlias (rootRelations root) 0
          after.clause = compiled.text ∧ after.parameters = compiled.parameters) ∧
        (request.order = none → after.orders = select.orders) ∧
        (request.pagination = none →
          after.offset = select.offset ∧ after.limit = select.limit) := by
  have hgenerate (σ : Type) [QueryBuilder σ] (query : σ) :=
    generate_eq_sections query tableAlias request root
  generalize rootRelations root = relations at hgenerate ⊢
  have hnoFilter (hfilter : request.filter = none) :=
    Request.sections_of_filter_none hfilter tableAlias relations
  have hnoOrder (horder : request.order = none) :=
    Request.sections_of_order_none horder tableAlias relations
  refine ⟨request.sections tableAlias relations, hgenerate, fun hfilter => (hnoFilter hfilter).1,
    request.nodup_plannedJoins tableAlias relations, rfl, hnoOrder, rfl, ?_⟩
  intro select
  obtain ⟨entities, joins, hjoins, hafter⟩ :=
    (request.sections tableAlias relations).replay_calls select
  refine ⟨_, hgenerate Select select, ?_⟩
  rw [hafter]
  refine ⟨?_, ?_, ?_, ?_⟩
  · intro hfilter
    obtain ⟨hnoJoins, hnoPredicate⟩ := hnoFilter hfilter
    -- The replay of no joins is the query itself, whose fields are therefore the new ones.
    rw [hnoJoins] at hjoins
    have hentities : select.entities = entities := congrArg Select.entities hjoins
    have hsame : select.joins = joins := congrArg Select.joins hjoins
    rw [hnoPredicate]
    exact ⟨hentities.symm, hsame.symm, rfl, rfl⟩
  · intro filter hfilter
    simp [Request.sections, hfilter]
  · intro horder
    rw [hnoOrder horder]
    exact List.append_nil select.orders
  · intro hpagination
    rw [Request.sections_of_pagination_none hpagination]
    exact ⟨rfl, rfl⟩

end FilterQuery
