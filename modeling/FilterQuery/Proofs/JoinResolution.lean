import FilterQuery.Proofs.SelectCalls

/-!
# Joins and their relations

The planner writes a join as a path text, and a select query finds its relation again by cutting the
text and looking the parent up among the aliases.  Where names agree in the catalog, the alias of a
position always stands for the entity of the position.  Then every planned join is resolved, to the
very relation that the filter mentions.
-/

namespace FilterQuery

/-! ## Joins of declared relations -/

/-- A relation of `owner`, joined to the alias `parent` of its owner. -/
structure RelationJoin where
  parent : String
  owner : String
  relation : Relation

namespace RelationJoin

def path (join : RelationJoin) : String :=
  join.parent ++ "." ++ join.relation.property

/-- The join as the planner makes it. -/
def step (join : RelationJoin) : String × String :=
  (join.path, join.relation.property)

def condition (join : RelationJoin) : String :=
  join.relation.property ++ "." ++ join.relation.foreignColumn join.owner ++ " = " ++
    join.parent ++ "." ++ join.relation.localColumn

def resolved (catalog : Catalog) (join : RelationJoin) : Join where
  path := join.path
  tableAlias := join.relation.property
  target := some ⟨catalog.table join.relation.target, join.condition⟩

/-- The text of the join in a statement. -/
def sql (catalog : Catalog) (join : RelationJoin) : String :=
  " INNER JOIN " ++ catalog.table join.relation.target ++ " " ++ join.relation.property ++
    " ON " ++ join.condition

theorem step_eq_iff {join : RelationJoin} {parent key : String} :
    join.step = (parent ++ "." ++ key, key) ↔
      join.relation.property = key ∧ join.parent = parent := by
  rw [step, path, Prod.mk.injEq]
  constructor
  · rintro ⟨hpath, rfl⟩
    simpa using hpath
  · rintro ⟨rfl, rfl⟩
    exact ⟨rfl, rfl⟩

end RelationJoin

theorem Select.joinsSql_resolved (catalog : Catalog) (joins : List RelationJoin) :
    joinsSql (joins.map (RelationJoin.resolved catalog)) =
      .ok (Text.joined "" (joins.map (RelationJoin.sql catalog))) := by
  have htext : joins.map (RelationJoin.sql catalog) =
      (joins.map (RelationJoin.resolved catalog)).map Join.sql := by
    rw [List.map_map]
    rfl
  rw [htext]
  apply joinsSql_eq
  intro join hmem
  obtain ⟨planned, -, rfl⟩ := List.mem_map.mp hmem
  rfl

/-! ## Names that agree -/

namespace Catalog

/-- Relations that share a property share their target, and no property has a point. -/
structure NamesAgree (catalog : Catalog) : Prop where
  distinct : catalog.PropertiesDistinct
  target_eq : ∀ owner other, ∀ relation ∈ catalog.relations owner,
    ∀ same ∈ catalog.relations other, relation.property = same.property →
      relation.target = same.target
  noPoint : ∀ owner, ∀ relation ∈ catalog.relations owner, '.' ∉ relation.property.toList

theorem exists_entity_of_mem_relations {catalog : Catalog} {owner : String} {relation : Relation}
    (hdeclared : relation ∈ catalog.relations owner) :
    ∃ definition, (owner, definition) ∈ catalog.entities ∧ relation ∈ definition.relations := by
  unfold relations at hdeclared
  cases hentity : catalog.entity? owner with
  | none =>
      rw [hentity] at hdeclared
      exact absurd hdeclared List.not_mem_nil
  | some definition =>
      rw [hentity] at hdeclared
      exact ⟨definition, mem_entities_of_entity? hentity, hdeclared⟩

/-- Names agree if they do among all entries of the catalog. -/
theorem namesAgree_of_entities {catalog : Catalog}
    (hdistinct : ∀ entry ∈ catalog.entities, (entry.2.relations.map Relation.property).Nodup)
    (hentities : ∀ entry ∈ catalog.entities, ∀ relation ∈ entry.2.relations,
      '.' ∉ relation.property.toList ∧
        ∀ other ∈ catalog.entities, ∀ same ∈ other.2.relations,
          relation.property = same.property → relation.target = same.target) :
    catalog.NamesAgree where
  distinct := propertiesDistinct_of_entities hdistinct
  target_eq := by
    intro owner other relation hdeclared same hsame
    obtain ⟨definition, hentity, hrelation⟩ := exists_entity_of_mem_relations hdeclared
    obtain ⟨definition', hentity', hrelation'⟩ := exists_entity_of_mem_relations hsame
    exact (hentities _ hentity relation hrelation).2 _ hentity' same hrelation'
  noPoint := by
    intro owner relation hdeclared
    obtain ⟨definition, hentity, hrelation⟩ := exists_entity_of_mem_relations hdeclared
    exact (hentities _ hentity relation hrelation).1

/-- A relation that is called like the root alias leads to the root entity. -/
structure AliasAgrees (catalog : Catalog) (root rootAlias : String) : Prop where
  target_eq : ∀ owner, ∀ relation ∈ catalog.relations owner, relation.property = rootAlias →
    relation.target = root
  noPoint : '.' ∉ rootAlias.toList

/-- The entities that an alias can stand for: the root alias for the root entity, and the name of a
relation for its target. -/
inductive StandsFor (catalog : Catalog) (root rootAlias : String) : String → String → Prop
  | root : StandsFor catalog root rootAlias rootAlias root
  | relation {owner : String} {relation : Relation}
      (hdeclared : relation ∈ catalog.relations owner) :
      StandsFor catalog root rootAlias relation.property relation.target

variable {catalog : Catalog} {root rootAlias name entity other : String}

theorem StandsFor.unique (hnames : catalog.NamesAgree) (halias : catalog.AliasAgrees root rootAlias)
    (hstands : catalog.StandsFor root rootAlias name entity)
    (hother : catalog.StandsFor root rootAlias name other) : entity = other := by
  cases hstands with
  | root =>
      generalize hname : rootAlias = name at hother
      cases hother with
      | root => rfl
      | relation hdeclared => exact (halias.target_eq _ _ hdeclared hname.symm).symm
  | @relation owner relation hdeclared =>
      generalize hname : relation.property = name at hother
      cases hother with
      | root => exact halias.target_eq _ _ hdeclared hname
      | relation hsame => exact hnames.target_eq _ _ _ hdeclared _ hsame hname

theorem StandsFor.noPoint (hnames : catalog.NamesAgree)
    (halias : catalog.AliasAgrees root rootAlias)
    (hstands : catalog.StandsFor root rootAlias name entity) : '.' ∉ name.toList := by
  cases hstands with
  | root => exact halias.noPoint
  | relation hdeclared => exact hnames.noPoint _ _ hdeclared

/-- The alias of a position stands for the entity of the position. -/
theorem standsFor_of_follow? {path : List String}
    (hfollow : catalog.follow? root path = some entity) :
    catalog.StandsFor root rootAlias (aliasAt rootAlias path) entity := by
  rcases List.eq_nil_or_concat path with rfl | ⟨before, key, rfl⟩
  · cases hfollow
    exact .root
  · rw [List.concat_eq_append] at hfollow ⊢
    rw [follow?_append, Option.bind_eq_some_iff] at hfollow
    obtain ⟨owner, -, hfollow⟩ := hfollow
    rw [follow?, Option.bind_eq_some_iff] at hfollow
    obtain ⟨relation, hrelation, heq⟩ := hfollow
    obtain ⟨hdeclared, rfl⟩ := declared_of_relation? hrelation
    cases heq
    rw [aliasAt_append_singleton]
    exact .relation hdeclared

end Catalog

/-! ## Mentioned relations are declared -/

/-- The join of a relation that is declared by an entity for which the parent's alias can stand. -/
structure RelationJoin.IsPlanned (catalog : Catalog) (root rootAlias : String)
    (join : RelationJoin) : Prop where
  standsFor : catalog.StandsFor root rootAlias join.parent join.owner
  relation?_eq : catalog.relation? join.owner join.relation.property = some join.relation

/-- The entity of the position declares the relation. -/
theorem Filter.Mentions.exists_relation {catalog : Catalog} {root : String}
    {relations : RelationMap} {filter : Filter} {path : List String} {key : String}
    (hdistinct : catalog.PropertiesDistinct) (hcharted : catalog.Charted root relations)
    (hmention : filter.Mentions relations path key) :
    ∃ owner relation, catalog.follow? root path = some owner ∧
      catalog.relation? owner key = some relation := by
  obtain ⟨map, nested, hat, hget⟩ := hmention.at?
  obtain ⟨owner, hfollow, hmap⟩ := hcharted.exists_follow? hdistinct hat
  obtain ⟨relation, hrelation, -⟩ := hmap.exists_relation hdistinct hget
  exact ⟨owner, relation, hfollow, hrelation⟩

theorem Request.exists_relationJoin {catalog : Catalog} {root rootAlias : String}
    {relations : RelationMap} {request : Request} (hdistinct : catalog.PropertiesDistinct)
    (hcharted : catalog.Charted root relations) {step : String × String}
    (hstep : step ∈ request.plannedJoins rootAlias relations) :
    ∃ join : RelationJoin, join.IsPlanned catalog root rootAlias ∧ step = join.step := by
  obtain ⟨path, key, ⟨filter, -, hmention⟩, rfl⟩ := mem_plannedJoins_iff.mp hstep
  obtain ⟨owner, relation, hfollow, hrelation⟩ := hmention.exists_relation hdistinct hcharted
  obtain ⟨-, rfl⟩ := Catalog.declared_of_relation? hrelation
  exact ⟨⟨aliasAt rootAlias path, owner, relation⟩,
    ⟨Catalog.standsFor_of_follow? hfollow, hrelation⟩, rfl⟩

/-! ## The aliases of a select query -/

theorem splitPath?_append {parent : List Char} (hparent : '.' ∉ parent) (property : List Char) :
    splitPath? (parent ++ '.' :: property) = some (parent, property) := by
  induction parent with
  | nil => rfl
  | cons c rest ih =>
      rw [List.mem_cons, not_or] at hparent
      rw [List.cons_append, splitPath?, if_neg (Ne.symm hparent.1), ih hparent.2]
      rfl

namespace Select

/-- A path below a known alias leads to the relation that the entity of the alias declares. -/
theorem relationAt?_eq {select : Select} {parent owner property : String} {relation : Relation}
    (hpoint : '.' ∉ parent.toList) (howner : Named.get? parent select.entities = some owner)
    (hrelation : select.catalog.relation? owner property = some relation) :
    select.relationAt? (parent ++ "." ++ property) = some (parent, owner, relation) := by
  have hsplit : splitPath? (parent ++ "." ++ property).toList =
      some (parent.toList, property.toList) := by
    rw [← splitPath?_append hpoint property.toList]
    simp
  rw [relationAt?, hsplit]
  simp [howner, hrelation]

/-- The query is about the catalog, knows the aliases, and takes each alias that it has for an
entity for which the alias can stand. -/
structure KnowsAliases (select : Select) (catalog : Catalog) (root rootAlias : String)
    (known : List String) : Prop where
  catalog_eq : select.catalog = catalog
  isSome_get? : ∀ name ∈ known, (Named.get? name select.entities).isSome = true
  standsFor : ∀ name entity, Named.get? name select.entities = some entity →
    catalog.StandsFor root rootAlias name entity

variable {select : Select} {catalog : Catalog} {root rootAlias : String} {known : List String}

theorem ofEntity_knowsAliases (catalog : Catalog) (root rootAlias : String) :
    (ofEntity catalog root rootAlias).KnowsAliases catalog root rootAlias [rootAlias] where
  catalog_eq := rfl
  isSome_get? := by simp [ofEntity, Named.get?]
  standsFor := by
    intro name entity hget
    by_cases hname : rootAlias = name
    · simp [ofEntity, Named.get?, hname] at hget
      rw [← hname, ← hget]
      exact .root
    · simp [ofEntity, Named.get?, hname] at hget

namespace KnowsAliases

/-- A planned join whose parent is known is resolved to its relation. -/
theorem innerJoin_eq (hknows : select.KnowsAliases catalog root rootAlias known)
    (hnames : catalog.NamesAgree) (halias : catalog.AliasAgrees root rootAlias)
    {join : RelationJoin} (hplanned : join.IsPlanned catalog root rootAlias)
    (hparent : join.parent ∈ known) :
    select.innerJoin join.path join.relation.property =
      { select with
        entities := Named.set join.relation.property join.relation.target select.entities
        joins := select.joins ++ [join.resolved catalog] } := by
  have hpoint := hplanned.standsFor.noPoint hnames halias
  obtain ⟨owner, howner⟩ := Option.isSome_iff_exists.mp (hknows.isSome_get? _ hparent)
  obtain rfl : owner = join.owner :=
    (hknows.standsFor _ _ howner).unique hnames halias hplanned.standsFor
  have hrelation : select.catalog.relation? join.owner join.relation.property =
      some join.relation := by
    rw [hknows.catalog_eq]
    exact hplanned.relation?_eq
  have hrelationAt : select.relationAt? join.path = some (join.parent, join.owner, join.relation) :=
    relationAt?_eq hpoint howner hrelation
  rw [innerJoin, hrelationAt, hknows.catalog_eq]
  rfl

theorem innerJoin (hknows : select.KnowsAliases catalog root rootAlias known)
    (hnames : catalog.NamesAgree) (halias : catalog.AliasAgrees root rootAlias)
    {join : RelationJoin} (hplanned : join.IsPlanned catalog root rootAlias)
    (hparent : join.parent ∈ known) :
    (select.innerJoin join.path join.relation.property).KnowsAliases catalog root rootAlias
      (join.relation.property :: known) := by
  rw [hknows.innerJoin_eq hnames halias hplanned hparent]
  constructor
  · exact hknows.catalog_eq
  · intro name hmem
    by_cases hname : name = join.relation.property
    · simp [hname]
    · simp only
      rw [Named.get?_set_of_ne hname]
      exact hknows.isSome_get? name (List.mem_of_ne_of_mem hname hmem)
  · intro name entity hget
    by_cases hname : name = join.relation.property
    · simp only [hname, Named.get?_set_self, Option.some.injEq] at hget
      rw [hname, ← hget]
      exact .relation (Catalog.declared_of_relation? hplanned.relation?_eq).1
    · simp only [Named.get?_set_of_ne hname] at hget
      exact hknows.standsFor name entity hget

/-- Joins that are in scope and planned are resolved one after another. -/
theorem exists_resolved (hnames : catalog.NamesAgree)
    (halias : catalog.AliasAgrees root rootAlias) {steps : List (String × String)}
    (hscope : JoinsInScope known steps)
    (hplanned : ∀ step ∈ steps, ∃ join : RelationJoin,
      join.IsPlanned catalog root rootAlias ∧ step = join.step)
    (hknows : select.KnowsAliases catalog root rootAlias known) :
    ∃ joins : List RelationJoin, (∀ join ∈ joins, join.IsPlanned catalog root rootAlias) ∧
      joins.map RelationJoin.step = steps ∧
      (Call.replay (joinCalls steps) select).joins =
        select.joins ++ joins.map (RelationJoin.resolved catalog) := by
  -- By induction on the scope: each join adds its alias to those that the query knows.
  induction hscope generalizing select with
  | nil => exact ⟨[], by simp, rfl, (List.append_nil _).symm⟩
  | @cons known parent key rest hparent _ ih =>
      rw [List.forall_mem_cons] at hplanned
      obtain ⟨⟨join, hjoin, hstep⟩, hrest⟩ := hplanned
      obtain ⟨rfl, rfl⟩ := RelationJoin.step_eq_iff.mp hstep.symm
      have hnext := hknows.innerJoin hnames halias hjoin hparent
      obtain ⟨joins, hall, hsteps, hjoins⟩ := ih hrest hnext
      have hfirst : (select.innerJoin join.path join.relation.property).joins =
          select.joins ++ [join.resolved catalog] :=
        congrArg Select.joins (hknows.innerJoin_eq hnames halias hjoin hparent)
      refine ⟨join :: joins, List.forall_mem_cons.mpr ⟨hjoin, hall⟩, ?_, ?_⟩
      · rw [List.map_cons, hsteps, hstep]
      · rw [hstep]
        calc
          (Call.replay (joinCalls (join.step :: rest)) select).joins =
              (Call.replay (joinCalls rest)
                (select.innerJoin join.path join.relation.property)).joins := rfl
          _ = (select.innerJoin join.path join.relation.property).joins ++
              joins.map (RelationJoin.resolved catalog) := hjoins
          _ = select.joins ++ (join :: joins).map (RelationJoin.resolved catalog) := by
            rw [hfirst, List.map_cons, List.append_assoc, List.singleton_append]

end KnowsAliases

end Select

/-! ## Requests -/

/-- Where names agree, a request never fails.  Each of its joins is written as the join of the
relation that the entity of the position declares, whatever the position was at which the filter
mentions it, and all mentioned relations are joined. -/
theorem generate_resolves_joins (catalog : Catalog) (root rootAlias : String) (request : Request)
    (hnames : catalog.NamesAgree) (halias : catalog.AliasAgrees root rootAlias) :
    ∃ (select : Select) (joins : List RelationJoin),
      generate (some (Select.ofEntity catalog root rootAlias)) rootAlias request
          (some (catalog, root)) = .ok select ∧
      select.joins = joins.map (RelationJoin.resolved catalog) ∧
      (∀ backend, select.sql backend = .ok
        ("SELECT " ++ rootAlias ++ ".* FROM " ++ catalog.table root ++ " " ++ rootAlias ++
          Text.joined "" (joins.map (RelationJoin.sql catalog)) ++ select.whereSql ++
          select.orderSql ++ select.pagingSql backend)) ∧
      (∀ join ∈ joins,
        catalog.relation? join.owner join.relation.property = some join.relation ∧
        (∃ path, request.Mentions (catalog.relationMap root) path join.relation.property ∧
          aliasAt rootAlias path = join.parent) ∧
        ∀ path, request.Mentions (catalog.relationMap root) path join.relation.property →
          aliasAt rootAlias path = join.parent →
            catalog.follow? root path = some join.owner) ∧
      ∀ path key, request.Mentions (catalog.relationMap root) path key →
        ∃ join ∈ joins, join.relation.property = key ∧ join.parent = aliasAt rootAlias path := by
  have hcharted := hnames.distinct.charted_relationMap root
  generalize hrelations : catalog.relationMap root = relations at hcharted
  obtain ⟨joins, hplanned, hsteps, hjoins⟩ :=
    Select.KnowsAliases.exists_resolved hnames halias
      (request.plannedJoins_inScope rootAlias relations)
      (fun step => Request.exists_relationJoin hnames.distinct hcharted)
      (Select.ofEntity_knowsAliases catalog root rootAlias)
  have hselect := request.joins_apply rootAlias relations (.ofEntity catalog root rootAlias)
  rw [hjoins] at hselect
  obtain ⟨hroot, htable⟩ := request.root_apply rootAlias relations
    (.ofEntity catalog root rootAlias)
  refine ⟨request.apply rootAlias relations (.ofEntity catalog root rootAlias), joins, ?_,
    hselect, ?_, ?_, ?_⟩
  · rw [← hrelations]
    rfl
  · intro backend
    rw [Select.sql_eq_map, hselect, hroot, htable]
    change (Select.joinsSql (joins.map (RelationJoin.resolved catalog))).map _ = _
    rw [Select.joinsSql_resolved]
    rfl
  · intro join hjoin
    have hplan := hplanned join hjoin
    refine ⟨hplan.relation?_eq, ?_, ?_⟩
    · have hstep : join.step ∈ request.plannedJoins rootAlias relations := by
        rw [← hsteps]
        exact List.mem_map.mpr ⟨join, hjoin, rfl⟩
      obtain ⟨path, key, hmention, heq⟩ := Request.mem_plannedJoins_iff.mp hstep
      obtain ⟨rfl, hparent⟩ := RelationJoin.step_eq_iff.mp heq
      exact ⟨path, hmention, hparent.symm⟩
    · rintro path ⟨filter, -, hmention⟩ hparent
      obtain ⟨owner, relation, hfollow, -⟩ :=
        hmention.exists_relation hnames.distinct hcharted
      have hstands : catalog.StandsFor root rootAlias (aliasAt rootAlias path) owner :=
        Catalog.standsFor_of_follow? hfollow
      rw [hparent] at hstands
      rw [hfollow, hstands.unique hnames halias hplan.standsFor]
  · intro path key hmention
    have hstep : mentionStep rootAlias path key ∈ joins.map RelationJoin.step := by
      rw [hsteps]
      exact hmention.mem_plannedJoins rootAlias
    obtain ⟨join, hjoin, heq⟩ := List.mem_map.mp hstep
    exact ⟨join, hjoin, RelationJoin.step_eq_iff.mp heq⟩

/-- Posts and their comments, which both have authors. -/
def Catalog.ofDiscussion : Catalog :=
  ⟨[
    ("Post", ⟨some "posts", [
      ⟨"author", "User", .manyToOne, none, none⟩,
      ⟨"comments", "Comment", .oneToMany, none, none⟩]⟩),
    ("Comment", ⟨none, [⟨"author", "User", .manyToOne, some "written_by", none⟩]⟩),
    ("User", ⟨some "users", []⟩)]⟩

/-- Posts with a comment by some author, or by an author themselves. -/
def Request.ofAuthors : Request where
  filter := some (.ofEntries [
    ("or", .combinator .or [
      .ofEntries [("comments", .mapping (.ofEntries [("author", .scalar (.ofNat 1))])
        [("author", .ofNat 1)])],
      .ofEntries [("author", .scalar .null)]])])
  order := none
  pagination := none

theorem generate_resolves_joins_of_authors :
    Catalog.ofDiscussion.NamesAgree ∧ Catalog.ofDiscussion.AliasAgrees "Post" "post_" ∧
      ∃ (select : Select) (join : RelationJoin),
        generate (some (Select.ofEntity .ofDiscussion "Post" "post_")) "post_" .ofAuthors
          (some (.ofDiscussion, "Post")) = .ok select ∧
        join.resolved .ofDiscussion ∈ select.joins ∧
        join.sql .ofDiscussion =
          " INNER JOIN users author ON author.id = comments.written_by" := by
  have hnames : Catalog.ofDiscussion.NamesAgree :=
    Catalog.namesAgree_of_entities (by decide) (by decide)
  have halias : Catalog.ofDiscussion.AliasAgrees "Post" "post_" := by
    constructor
    · intro owner relation hdeclared hproperty
      obtain ⟨definition, hentity, hrelation⟩ :=
        Catalog.exists_entity_of_mem_relations hdeclared
      have hnone : ∀ entry ∈ Catalog.ofDiscussion.entities, ∀ relation ∈ entry.2.relations,
          relation.property ≠ "post_" := by decide
      exact absurd hproperty (hnone _ hentity relation hrelation)
    · decide
  have hrelations : Catalog.ofDiscussion.relationMap "Post" = .ofEntries [
      ("author", .ofEntries []), ("comments", .ofEntries [("author", .ofEntries [])])] := by
    cbv
  have hmention : Request.ofAuthors.Mentions (Catalog.ofDiscussion.relationMap "Post")
      ["comments"] "author" := by
    rw [hrelations]
    refine ⟨_, rfl, .inBranch List.mem_cons_self List.mem_cons_self ?_⟩
    refine .inRelation List.mem_cons_self rfl ?_
    exact .here List.mem_cons_self (by simp) rfl
  obtain ⟨select, joins, hselect, hjoins, -, hresolved, hall⟩ :=
    generate_resolves_joins .ofDiscussion "Post" "post_" .ofAuthors hnames halias
  obtain ⟨⟨parent, owner, relation⟩, hmem, hkey, hparent⟩ := hall _ _ hmention
  obtain ⟨hrelation, -, howner⟩ := hresolved _ hmem
  simp only at hkey hparent hrelation howner
  subst hparent
  rw [hkey] at hrelation howner
  cases howner _ hmention rfl
  cases hrelation
  exact ⟨hnames, halias, select, _, hselect, hjoins ▸ List.mem_map.mpr ⟨_, hmem, rfl⟩, by decide⟩

end FilterQuery
