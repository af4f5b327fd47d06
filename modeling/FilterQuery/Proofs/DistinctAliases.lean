import FilterQuery.Proofs.JoinResolution
import FilterQuery.Proofs.SessionAnswers
import Mathlib

/-!
# Aliases of a statement

A join takes the name of its relation as its alias, and the planner leaves out only joins that have
the path and the alias of an earlier one.  The aliases of a statement are therefore distinct if and
only if relations of one name are always mentioned below one alias, and none is called like the
root alias.
-/

namespace FilterQuery

namespace Select

/-- The aliases that a statement declares. -/
def aliases (select : Select) : List String :=
  select.rootAlias :: select.joins.map Join.tableAlias

theorem map_snd_registered (select : Select) :
    select.registered.map Prod.snd = select.joins.map Join.tableAlias := by
  rw [registered, List.map_map]
  rfl

theorem sql_eq_ok {select : Select} {backend : Backend} {text : String}
    (hsql : select.sql backend = .ok text) :
    (∀ join ∈ select.joins, join.target.isSome = true) ∧
      text = "SELECT " ++ select.rootAlias ++ ".* FROM " ++ select.rootTable ++ " " ++
        select.rootAlias ++ Text.joined "" (select.joins.map Join.sql) ++ select.whereSql ++
        select.orderSql ++ select.pagingSql backend := by
  rw [sql_eq_map] at hsql
  obtain ⟨joins, hjoins, rfl⟩ := exists_of_map_eq_ok hsql
  have hresolved := resolved_of_joinsSql hjoins
  rw [joinsSql_eq hresolved] at hjoins
  cases hjoins
  exact ⟨hresolved, rfl⟩

end Select

/-! ## Names that tell the joins apart -/

namespace Request

/-- Mentioned relations of one name are mentioned below one alias, and none is called like the root
alias. -/
structure NamesApart (request : Request) (rootAlias : String) (relations : RelationMap) :
    Prop where
  ne_root : ∀ path key, request.Mentions relations path key → key ≠ rootAlias
  parent_eq : ∀ path other key, request.Mentions relations path key →
    request.Mentions relations other key → aliasAt rootAlias path = aliasAt rootAlias other

variable {request : Request} {rootAlias : String} {relations : RelationMap}

theorem nodup_plannedAliases_iff :
    ((request.plannedJoins rootAlias relations).map Prod.snd).Nodup ↔
      ∀ path other key, request.Mentions relations path key →
        request.Mentions relations other key →
          aliasAt rootAlias path = aliasAt rootAlias other := by
  rw [List.nodup_map_iff_inj_on (request.nodup_plannedJoins rootAlias relations)]
  constructor
  · intro hinj path other key hmention hother
    have hstep := hmention.mem_plannedJoins rootAlias
    have hsame := hother.mem_plannedJoins rootAlias
    exact (mentionStep_inj.mp (hinj _ hstep _ hsame rfl)).1
  · intro hparent step hstep same hsame hkey
    obtain ⟨path, key, hmention, rfl⟩ := mem_plannedJoins_iff.mp hstep
    obtain ⟨other, name, hother, rfl⟩ := mem_plannedJoins_iff.mp hsame
    obtain rfl : key = name := hkey
    exact mentionStep_inj.mpr ⟨hparent path other key hmention hother, rfl⟩

theorem nodup_aliases_iff :
    (rootAlias :: (request.plannedJoins rootAlias relations).map Prod.snd).Nodup ↔
      request.NamesApart rootAlias relations := by
  rw [List.nodup_cons, mem_plannedAliases_iff, nodup_plannedAliases_iff]
  constructor
  · rintro ⟨hroot, hparent⟩
    exact ⟨fun path key hmention heq => hroot ⟨path, heq ▸ hmention⟩, hparent⟩
  · rintro ⟨hroot, hparent⟩
    exact ⟨fun ⟨path, hmention⟩ => hroot path rootAlias hmention rfl, hparent⟩

end Request

namespace Catalog

/-- No property is declared twice among the entities that the root entity leads to, and none of
theirs is called like the root alias. -/
structure PropertiesApart (catalog : Catalog) (root rootAlias : String) : Prop where
  distinct : catalog.PropertiesDistinct
  owner_eq : ∀ owner other, catalog.Reachable root owner → catalog.Reachable root other →
    ∀ relation ∈ catalog.relations owner, ∀ same ∈ catalog.relations other,
      relation.property = same.property → owner = other
  ne_root : ∀ owner, catalog.Reachable root owner → ∀ relation ∈ catalog.relations owner,
    relation.property ≠ rootAlias

variable {catalog : Catalog} {root rootAlias : String}

/-- Among the entries of the catalog no property has two owners. -/
theorem propertiesApart_of_entities
    (hdistinct : ∀ entry ∈ catalog.entities, (entry.2.relations.map Relation.property).Nodup)
    (hentities : ∀ entry ∈ catalog.entities, ∀ relation ∈ entry.2.relations,
      relation.property ≠ rootAlias ∧
        ∀ other ∈ catalog.entities, ∀ same ∈ other.2.relations,
          relation.property = same.property → entry.1 = other.1) :
    catalog.PropertiesApart root rootAlias where
  distinct := propertiesDistinct_of_entities hdistinct
  owner_eq := by
    intro owner other _ _ relation hdeclared same hsame
    obtain ⟨definition, hentity, hrelation⟩ := exists_entity_of_mem_relations hdeclared
    obtain ⟨definition', hentity', hrelation'⟩ := exists_entity_of_mem_relations hsame
    exact (hentities _ hentity relation hrelation).2 _ hentity' same hrelation'
  ne_root := by
    intro owner _ relation hdeclared
    obtain ⟨definition, hentity, hrelation⟩ := exists_entity_of_mem_relations hdeclared
    exact (hentities _ hentity relation hrelation).1

/-- A position at which a relation is mentioned has keys. -/
theorem PropertiesDistinct.exists_visit (hdistinct : catalog.PropertiesDistinct)
    {filter : Filter} {path : List String} {key owner : String}
    (hmention : filter.Mentions (catalog.relationMap root) path key)
    (hfollow : catalog.follow? root path = some owner) :
    ∃ map, ⟨path, owner, map⟩ ∈ catalog.visits root (catalog.relationMap root) ∧
      map ≠ .empty := by
  obtain ⟨map, nested, hat, hget⟩ := hmention.at?
  refine ⟨map, hdistinct.mem_visits_iff.mpr ⟨hat, hfollow⟩, ?_⟩
  rintro rfl
  rw [RelationMap.get?_empty] at hget
  cases hget

/-- All relations of an entity are mentioned at one position. -/
theorem PropertiesDistinct.path_eq (hdistinct : catalog.PropertiesDistinct)
    {filter another : Filter} {path other : List String} {key name owner : String}
    (hmention : filter.Mentions (catalog.relationMap root) path key)
    (hother : another.Mentions (catalog.relationMap root) other name)
    (hfollow : catalog.follow? root path = some owner)
    (hfollowOther : catalog.follow? root other = some owner) : path = other := by
  obtain ⟨map, hvisit, hmap⟩ := hdistinct.exists_visit hmention hfollow
  obtain ⟨same, hsame, hsameMap⟩ := hdistinct.exists_visit hother hfollowOther
  have hfirst := hdistinct.firstVisits_relationMap root
  exact congrArg Visit.path (hfirst.eq_of_ne_empty hvisit hsame rfl hmap hsameMap)

theorem PropertiesApart.namesApart (hapart : catalog.PropertiesApart root rootAlias)
    (request : Request) : request.NamesApart rootAlias (catalog.relationMap root) := by
  have hcharted := hapart.distinct.charted_relationMap root
  constructor
  · rintro path key ⟨filter, -, hmention⟩
    obtain ⟨owner, relation, hfollow, hrelation⟩ :=
      hmention.exists_relation hapart.distinct hcharted
    obtain ⟨hdeclared, rfl⟩ := declared_of_relation? hrelation
    exact hapart.ne_root owner (Reachable.root.follow? hfollow) relation hdeclared
  · rintro path other key ⟨filter, -, hmention⟩ ⟨another, -, hother⟩
    obtain ⟨owner, relation, hfollow, hrelation⟩ :=
      hmention.exists_relation hapart.distinct hcharted
    obtain ⟨owner', same, hfollow', hsame⟩ := hother.exists_relation hapart.distinct hcharted
    obtain ⟨hdeclared, rfl⟩ := declared_of_relation? hrelation
    obtain ⟨hdeclared', hproperty⟩ := declared_of_relation? hsame
    -- Only one entity declares the property, and only one of its positions has keys.
    obtain rfl : owner = owner' :=
      hapart.owner_eq owner owner' (Reachable.root.follow? hfollow)
        (Reachable.root.follow? hfollow') relation hdeclared same hdeclared' hproperty.symm
    rw [hapart.distinct.path_eq hmention hother hfollow hfollow']

end Catalog

/-! ## Compiled statements -/

/-- A compiled statement declares the root alias and the names of the mentioned relations, and no
two of its joins have both the path and the alias in common.  The aliases are distinct if and only
if the request keeps its names apart, and where the properties of the catalog are apart every
request does. -/
theorem compile_aliases_nodup_iff (session : Session) (entity : String)
    (tableAlias : Option String) (request : Request) (positional : Bool) (answer : Json)
    (hcompile : session.compile entity tableAlias request positional = .ok answer) :
    ∃ (select : Select) (text : String),
      session.select entity tableAlias request = .ok select ∧
      select.rootAlias = tableAlias.getD (Session.defaultAlias entity) ∧
      select.sql session.settings.backend = .ok text ∧
      answer = select.answer session.settings.backend positional text ∧
      (∀ join ∈ select.joins, join.target.isSome = true) ∧
      text = "SELECT " ++ select.rootAlias ++ ".* FROM " ++ session.catalog.table entity ++ " " ++
        select.rootAlias ++ Text.joined "" (select.joins.map Join.sql) ++ select.whereSql ++
        select.orderSql ++ select.pagingSql session.settings.backend ∧
      (∀ name, name ∈ select.joins.map Join.tableAlias ↔
        ∃ path, request.Mentions (session.catalog.relationMap entity) path name) ∧
      select.registered.Nodup ∧
      (select.aliases.Nodup ↔
        request.NamesApart select.rootAlias (session.catalog.relationMap entity)) ∧
      (session.catalog.PropertiesApart entity select.rootAlias → select.aliases.Nodup) := by
  have hselect := session.select_eq entity tableAlias request
  generalize tableAlias.getD (Session.defaultAlias entity) = rootAlias at hselect ⊢
  generalize hrelations : session.catalog.relationMap entity = relations at hselect ⊢
  have hregistered := request.registered_apply rootAlias relations
    (.ofEntity session.catalog entity rootAlias)
  obtain ⟨hroot, htable⟩ := request.root_apply rootAlias relations
    (.ofEntity session.catalog entity rootAlias)
  generalize request.apply rootAlias relations (Select.ofEntity session.catalog entity rootAlias) =
    select at hselect hregistered hroot htable
  change select.registered = request.plannedJoins rootAlias relations at hregistered
  change select.rootAlias = rootAlias at hroot
  change select.rootTable = session.catalog.table entity at htable
  rw [Session.compile_eq_map hselect] at hcompile
  obtain ⟨text, hsql, hanswer⟩ := exists_of_map_eq_ok hcompile
  obtain ⟨hresolved, htext⟩ := Select.sql_eq_ok hsql
  have haliases : select.aliases.Nodup ↔ request.NamesApart rootAlias relations := by
    rw [Select.aliases, ← select.map_snd_registered, hregistered, hroot]
    exact Request.nodup_aliases_iff
  refine ⟨select, text, hselect, hroot, hsql, hanswer.symm, hresolved, ?_, ?_, ?_, ?_, ?_⟩
  · rw [← htable]
    exact htext
  · intro name
    rw [← select.map_snd_registered, hregistered]
    exact Request.mem_plannedAliases_iff
  · rw [hregistered]
    exact request.nodup_plannedJoins rootAlias relations
  · rw [hroot]
    exact haliases
  · intro hapart
    rw [hroot] at hapart
    rw [haliases, ← hrelations]
    exact hapart.namesApart request

def Session.ofBlog : Session where
  settings := ⟨none, .postgres, false, false⟩
  catalog := .ofBlog
  metrics := none

/-- Posts that have an author with a certain name and a comment with a certain writer. -/
def Request.ofAuthorAndWriter : Request where
  filter := some (.ofEntries [
    ("author", .mapping (.ofEntries [("name", .scalar (.string "Ann"))]) [("name", .string "Ann")]),
    ("comments", .mapping (.ofEntries [("writer", .scalar (.ofNat 1))])
      [("writer", .ofNat 1)])])
  order := none
  pagination := none

theorem compile_aliases_nodup_iff_of_blog :
    (∃ answer, Session.ofBlog.compile "Post" none .ofAuthorAndWriter true = .ok answer) ∧
      Catalog.ofBlog.PropertiesApart "Post" "post_" ∧
      ∃ select, Session.ofBlog.select "Post" none .ofAuthorAndWriter = .ok select ∧
        select.aliases = ["post_", "author", "comments", "writer"] ∧ select.aliases.Nodup := by
  have hrelations : Session.ofBlog.catalog.relationMap "Post" = .ofEntries [
      ("author", .ofEntries [("posts", .ofEntries [])]),
      ("comments", .ofEntries [("post", .ofEntries []), ("writer", .ofEntries [])])] := by
    cbv
  have hdefault : Session.defaultAlias "Post" = "post_" := by cbv
  have hapart : Catalog.ofBlog.PropertiesApart "Post" "post_" :=
    Catalog.propertiesApart_of_entities (by decide) (by decide)
  have hselected := Session.ofBlog.select_eq "Post" none .ofAuthorAndWriter
  rw [hrelations, Option.getD_none, hdefault] at hselected
  have hcompiled :
      ∃ answer, Session.ofBlog.compile "Post" none .ofAuthorAndWriter true = .ok answer := by
    unfold Session.compile
    rw [hselected]
    exact ⟨_, rfl⟩
  obtain ⟨answer, hcompile⟩ := hcompiled
  obtain ⟨select, -, hselect, hroot, -, -, -, -, -, -, -, hdistinct⟩ :=
    compile_aliases_nodup_iff .ofBlog "Post" none .ofAuthorAndWriter true answer hcompile
  rw [hroot, Option.getD_none, hdefault] at hdistinct
  refine ⟨⟨answer, hcompile⟩, hapart, select, hselect, ?_, hdistinct hapart⟩
  rw [hselected] at hselect
  cases hselect
  decide

def Session.ofDiscussion : Session where
  settings := ⟨none, .postgres, false, false⟩
  catalog := .ofDiscussion
  metrics := none

/-- Posts by one author with a comment by another. -/
def Request.ofTwoAuthors : Request where
  filter := some (.ofEntries [
    ("comments", .mapping
      (.ofEntries [("author", .mapping (.ofEntries [("name", .scalar (.string "Ann"))])
        [("name", .string "Ann")])])
      [("author", .object [("name", .string "Ann")])]),
    ("author", .mapping (.ofEntries [("name", .scalar (.string "Bob"))])
      [("name", .string "Bob")])])
  order := none
  pagination := none

def Select.ofTwoAuthors : Select :=
  Request.ofTwoAuthors.apply "post_"
    (.ofEntries [("author", .ofEntries []), ("comments", .ofEntries [("author", .ofEntries [])])])
    (Select.ofEntity .ofDiscussion "Post" "post_")

/-- The authors of a post and of its comments are joined under one alias. -/
theorem compile_repeats_alias_of_discussion :
    Request.parse ("\x7b\"where\":\x7b" ++
          "\"comments\":\x7b\"author\":\x7b\"name\":\"Ann\"\x7d\x7d," ++
          "\"author\":\x7b\"name\":\"Bob\"\x7d\x7d\x7d") =
        .ok .ofTwoAuthors ∧
      Session.ofDiscussion.compile "Post" none .ofTwoAuthors false = .ok (.object [
        ("sql", .string ("SELECT post_.* FROM posts post_" ++
          " INNER JOIN comment comments ON comments.post_id = post_.id" ++
          " INNER JOIN users author ON author.id = comments.written_by" ++
          " INNER JOIN users author ON author.id = post_.author_id" ++
          " WHERE ((author.name = :param0)) AND (author.name = :param1)")),
        ("parameters", .object [("param0", .string "Ann"), ("param1", .string "Bob")])]) ∧
      Session.ofDiscussion.select "Post" none .ofTwoAuthors = .ok .ofTwoAuthors ∧
      Select.ofTwoAuthors.aliases = ["post_", "comments", "author", "author"] ∧
      ¬ Select.ofTwoAuthors.aliases.Nodup := by
  have hrelations : Session.ofDiscussion.catalog.relationMap "Post" = .ofEntries [
      ("author", .ofEntries []), ("comments", .ofEntries [("author", .ofEntries [])])] := by
    cbv
  have hdefault : Session.defaultAlias "Post" = "post_" := by cbv
  have hselect : Session.ofDiscussion.select "Post" none .ofTwoAuthors = .ok .ofTwoAuthors := by
    rw [Session.select_eq, hrelations, Option.getD_none, hdefault]
    rfl
  have hsql : Select.ofTwoAuthors.sql .postgres = .ok ("SELECT post_.* FROM posts post_" ++
      " INNER JOIN comment comments ON comments.post_id = post_.id" ++
      " INNER JOIN users author ON author.id = comments.written_by" ++
      " INNER JOIN users author ON author.id = post_.author_id" ++
      " WHERE ((author.name = :param0)) AND (author.name = :param1)") := by
    decide +kernel
  refine ⟨by cbv, ?_, hselect, by decide, by decide⟩
  rw [Session.compile_eq_map hselect]
  exact congrArg (Except.map (Select.ofTwoAuthors.answer .postgres false)) hsql

end FilterQuery
