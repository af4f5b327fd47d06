import FilterQuery.Proofs.RequestSections
import Mathlib

/-!
# Orders in scope

The qualifiers of an order come from the order alone: a direction orders by a column of the root
alias, and an order under a relation by columns of the relation's name.  Joins are planned from the
filter alone.  A term below a relation therefore has a table behind it if and only if the filter
mentions a relation of that name.
-/

namespace FilterQuery

/-- What an order asks for: columns of the root, and columns of the relations it nests under. -/
inductive Order.Asks (order : Order) (tableAlias : String) (relations : RelationMap) :
    OrderTerm → Prop
  | direct {key text : String} (hentry : (key, .direction text) ∈ order.entries) :
      Asks order tableAlias relations ⟨⟨tableAlias, key⟩, text⟩
  | nested {key name text : String} {inner : Order}
      (hentry : (key, .nested inner) ∈ order.entries) (hrelation : relations.contains key = true)
      (hinner : (name, .direction text) ∈ inner.entries) :
      Asks order tableAlias relations ⟨⟨key, name⟩, text⟩

theorem directTerm?_eq_some {qualifier : String} {entry : String × OrderValue}
    {term : OrderTerm} (hterm : directTerm? qualifier entry = some term) :
    ∃ name text, entry = (name, .direction text) ∧ term = ⟨⟨qualifier, name⟩, text⟩ := by
  obtain ⟨name, value⟩ := entry
  cases value with
  | direction text => exact ⟨name, text, rfl, (Option.some.inj hterm).symm⟩
  | nested inner => cases hterm

namespace Order

variable {order : Order} {tableAlias : String} {relations : RelationMap} {term : OrderTerm}

theorem mem_terms_iff :
    term ∈ order.terms tableAlias relations ↔ order.Asks tableAlias relations term := by
  rw [terms, List.mem_flatMap]
  constructor
  · rintro ⟨⟨key, value⟩, hentry, hterm⟩
    cases value with
    | direction text =>
        obtain rfl := List.mem_singleton.mp hterm
        exact .direct hentry
    | nested inner =>
        rw [entryTerms] at hterm
        split at hterm
        next hrelation =>
          obtain ⟨found, hfound, hdirect⟩ := List.mem_filterMap.mp hterm
          obtain ⟨name, text, rfl, rfl⟩ := directTerm?_eq_some hdirect
          exact .nested hentry hrelation hfound
        next => exact absurd hterm List.not_mem_nil
  · rintro (hentry | ⟨hentry, hrelation, hinner⟩)
    · exact ⟨_, hentry, List.mem_singleton.mpr rfl⟩
    · refine ⟨_, hentry, ?_⟩
      rw [entryTerms, if_pos hrelation]
      exact List.mem_filterMap.mpr ⟨_, hinner, rfl⟩

theorem Asks.qualifier (hasks : order.Asks tableAlias relations term) :
    term.column.qualifier = tableAlias ∨ relations.contains term.column.qualifier = true := by
  cases hasks with
  | direct _ => exact .inl rfl
  | nested _ hrelation _ => exact .inr hrelation

end Order

theorem Request.mem_orders_iff {request : Request} {tableAlias : String}
    {relations : RelationMap} {term : OrderTerm} :
    term ∈ (request.sections tableAlias relations).orders ↔
      ∃ order, request.order = some order ∧ order.Asks tableAlias relations term := by
  unfold sections
  cases request.order with
  | none => simp
  | some order => simp [Order.mem_terms_iff]

/-- The terms of a request are what its order asks for, with the root alias or a relation of the
root as their qualifier.  The joins of the request declare the qualifier if and only if its filter
mentions a relation of that name. -/
theorem generate_declares_order_qualifier_iff (tableAlias : String) (request : Request)
    (root : Option (Catalog × String)) :
    ∃ sections : CallSections,
      (∀ (σ : Type) [QueryBuilder σ] (query : σ),
        generate (some query) tableAlias request root = .ok (Call.replay sections.calls query)) ∧
      (∀ term, term ∈ sections.orders ↔
        ∃ order, request.order = some order ∧
          order.Asks tableAlias (rootRelations root) term) ∧
      ∀ term ∈ sections.orders,
        (term.column.qualifier = tableAlias ∨
          (rootRelations root).contains term.column.qualifier = true) ∧
        (term.column.qualifier ∈ sections.joins.map Prod.snd ↔
          ∃ path, request.Mentions (rootRelations root) path term.column.qualifier) := by
  have hgenerate (σ : Type) [QueryBuilder σ] (query : σ) :=
    generate_eq_sections query tableAlias request root
  generalize rootRelations root = relations at hgenerate ⊢
  refine ⟨request.sections tableAlias relations, hgenerate, fun term => Request.mem_orders_iff, ?_⟩
  intro term hterm
  obtain ⟨order, -, hasks⟩ := Request.mem_orders_iff.mp hterm
  exact ⟨hasks.qualifier, Request.mem_plannedAliases_iff⟩

/-- Posts in the order of their authors' names. -/
def Request.ofAuthorOrder : Request where
  filter := none
  order := some (.ofEntries [("author", .nested (.ofEntries [("name", .direction "ASC")]))])
  pagination := none

/-- Posts are ordered by a column of their authors, who are not joined. -/
theorem generate_orders_by_undeclared_of_blog :
    Request.parse ("\x7b\"order\":\x7b\"author\":\x7b\"name\":\"ASC\"\x7d\x7d\x7d") =
        .ok .ofAuthorOrder ∧
      ∃ order term,
        Request.ofAuthorOrder.order = some order ∧
        order.Asks "post" (Catalog.ofBlog.relationMap "Post") term ∧
        generate (some Recording.empty) "post" .ofAuthorOrder (some (.ofBlog, "Post")) =
          .ok ⟨[term.call]⟩ ∧
        ¬ (term.column.qualifier = "post" ∨
          ∃ path, Call.join path term.column.qualifier ∈ [term.call]) := by
  have hrelations : Catalog.ofBlog.relationMap "Post" = .ofEntries [
      ("author", .ofEntries [("posts", .ofEntries [])]),
      ("comments", .ofEntries [("post", .ofEntries []), ("writer", .ofEntries [])])] := by
    cbv
  refine ⟨by cbv, _, ⟨⟨"author", "name"⟩, "ASC"⟩, rfl, ?_, ?_, ?_⟩
  · rw [hrelations]
    exact .nested List.mem_cons_self rfl List.mem_cons_self
  · rw [generate, rootRelations, hrelations]
    rfl
  · simp [OrderTerm.call]

end FilterQuery
