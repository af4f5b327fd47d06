import FilterQuery.Proofs.WrittenValues
import Mathlib.Data.List.Induction

/-!
# Building filters

A filter comes from the text of an object or from keys that are set one after another.  Both give
the same filter, also when a key is repeated: it keeps its first place and takes the last value.
Setting keys and deciding the shapes of values commute, so that the shape of a value never depends
on which of the two comes first.
-/

namespace FilterQuery

namespace Named

variable {α β : Type}

theorem ofPairs_concat (pairs : Named α) (name : String) (value : α) :
    ofPairs (pairs ++ [(name, value)]) = set name value (ofPairs pairs) := by
  simp only [ofPairs, extend, List.foldl_append, List.foldl_cons, List.foldl_nil]

/-- The last value under a name counts. -/
theorem get?_ofPairs (name : String) (pairs : Named α) :
    get? name (ofPairs pairs) = get? name pairs.reverse := by
  induction pairs using List.reverseRecOn with
  | nil => rfl
  | append_singleton before pair ih =>
      rw [ofPairs_concat, List.reverse_append, List.reverse_singleton, List.singleton_append, get?]
      split
      · next hname => rw [hname, get?_set_self]
      · next hname => rw [get?_set_of_ne (Ne.symm hname), ih]

theorem names_ofPairs (pairs : Named α) : names (ofPairs pairs) = (names pairs).eraseDups := by
  induction pairs using List.reverseRecOn with
  | nil => rfl
  | append_singleton before pair ih =>
      have hnames : names (before ++ [pair]) = names before ++ [pair.1] := by
        simp only [names, List.map_append, List.map_cons, List.map_nil]
      rw [ofPairs_concat, names_set, ih, hnames, List.eraseDups_append]
      simp only [List.mem_eraseDups]
      split
      · next hold => simp [List.removeAll, hold]
      · next hnew => simp [List.removeAll, hnew, List.eraseDups_cons]

theorem nodup_names_set {name : String} {entries : Named α} (hnodup : (names entries).Nodup)
    (value : α) : (names (set name value entries)).Nodup := by
  rw [names_set]
  split
  · exact hnodup
  · next hnew =>
      refine List.nodup_append.2 ⟨hnodup, List.nodup_cons.2 ⟨List.not_mem_nil, List.nodup_nil⟩, ?_⟩
      rintro old hold other hother rfl
      exact hnew (List.mem_singleton.1 hother ▸ hold)

theorem nodup_names_ofPairs (pairs : Named α) : (names (ofPairs pairs)).Nodup := by
  induction pairs using List.reverseRecOn with
  | nil => exact List.nodup_nil
  | append_singleton before pair ih =>
      rw [ofPairs_concat]
      exact nodup_names_set ih pair.2

/-- Each value under its name replaced by what is made of the two. -/
def mapEntries (make : String → α → β) (entries : Named α) : Named β :=
  entries.map fun entry => (entry.1, make entry.1 entry.2)

theorem mapEntries_concat (make : String → α → β) (entries : Named α) (name : String) (value : α) :
    mapEntries make (entries ++ [(name, value)]) =
      mapEntries make entries ++ [(name, make name value)] := by
  simp only [mapEntries, List.map_append, List.map_cons, List.map_nil]

theorem names_mapEntries (make : String → α → β) (entries : Named α) :
    names (mapEntries make entries) = names entries := by
  simp only [names, mapEntries, List.map_map, Function.comp_def]

theorem mapEntries_set (make : String → α → β) (name : String) (value : α) (entries : Named α) :
    mapEntries make (set name value entries) =
      set name (make name value) (mapEntries make entries) := by
  induction entries with
  | nil => rfl
  | cons entry rest ih =>
      obtain ⟨other, old⟩ := entry
      unfold mapEntries at ih ⊢
      rw [List.map_cons, set, set]
      split
      · next hname =>
          rw [List.map_cons, hname]
      · rw [List.map_cons, ih]

theorem mapEntries_ofPairs (make : String → α → β) (pairs : Named α) :
    mapEntries make (ofPairs pairs) = ofPairs (mapEntries make pairs) := by
  induction pairs using List.reverseRecOn with
  | nil => rfl
  | append_singleton before pair ih =>
      rw [mapEntries_concat, ofPairs_concat, ofPairs_concat, mapEntries_set, ih]

theorem get?_mapEntries (make : String → α → β) (name : String) (entries : Named α) :
    get? name (mapEntries make entries) = (get? name entries).map (make name) := by
  induction entries with
  | nil => rfl
  | cons entry rest ih =>
      unfold mapEntries at ih ⊢
      rw [List.map_cons, get?, get?]
      split
      · next hname => rw [hname, Option.map_some]
      · exact ih

end Named

namespace Filter

/-- The keys of the pairs set one after another, each to the shape of its value. -/
def build (pairs : List (String × Json)) : Filter :=
  pairs.foldl (fun filter pair => filter.set pair.1 (FilterValue.ofJson pair.1 pair.2)) empty

theorem ofMembers_eq_mapEntries (members : List (String × Json)) :
    ofMembers members = Named.mapEntries FilterValue.ofJson members := by
  induction members with
  | nil => rfl
  | cons member rest ih =>
      rw [ofMembers, ih]
      rfl

theorem entries_build (pairs : List (String × Json)) :
    (build pairs).entries = Named.ofPairs (Named.mapEntries FilterValue.ofJson pairs) := by
  induction pairs using List.reverseRecOn with
  | nil => rfl
  | append_singleton before pair ih =>
      have hbuild : build (before ++ [pair]) =
          (build before).set pair.1 (FilterValue.ofJson pair.1 pair.2) := by
        simp only [build, List.foldl_append, List.foldl_cons, List.foldl_nil]
      rw [hbuild, Named.mapEntries_concat, Named.ofPairs_concat, ← ih]
      rfl

/-- The members of an object are the pairs that it was written with, set one after another. -/
theorem ofJson_ofPairs (pairs : List (String × Json)) :
    ofJson (.object (Named.ofPairs pairs)) = build pairs := by
  rw [ofJson, ofMembers_eq_mapEntries, Named.mapEntries_ofPairs, ← entries_build]
  cases build pairs
  rfl

theorem names_entries_build (pairs : List (String × Json)) :
    Named.names (build pairs).entries = (Named.names pairs).eraseDups := by
  rw [entries_build, Named.names_ofPairs, Named.names_mapEntries]

theorem get?_build (pairs : List (String × Json)) (key : String) :
    (build pairs).get? key =
      (Named.get? key pairs.reverse).map (FilterValue.ofJson key) := by
  have hreverse : (Named.mapEntries FilterValue.ofJson pairs).reverse =
      Named.mapEntries FilterValue.ofJson pairs.reverse := by
    simp only [Named.mapEntries, List.map_reverse]
  rw [get?, entries_build, Named.get?_ofPairs, hreverse, Named.get?_mapEntries]

/-- The value stands in the filter, in a branch of one of its combinators, or in the filter of one
of its objects. -/
inductive Contains : Filter → FilterValue → Prop
  | entry {filter : Filter} {key : String} {value : FilterValue}
      (hentry : (key, value) ∈ filter.entries) : Contains filter value
  | branch {filter branch : Filter} {key : String} {combinator : Combinator}
      {branches : List Filter} {value : FilterValue}
      (hentry : (key, .combinator combinator branches) ∈ filter.entries)
      (hbranch : branch ∈ branches) (hvalue : Contains branch value) : Contains filter value
  | nested {filter inner : Filter} {key : String} {members : List (String × Json)}
      {value : FilterValue} (hentry : (key, .mapping inner members) ∈ filter.entries)
      (hvalue : Contains inner value) : Contains filter value

theorem ofItems_eq_map (items : List Json) : ofItems items = items.map ofJson := by
  induction items with
  | nil => rfl
  | cons item rest ih => rw [ofItems, ih, List.map_cons]

theorem exists_of_mem_entries_ofJson {document : Json} {key : String} {value : FilterValue}
    (hentry : (key, value) ∈ (ofJson document).entries) :
    ∃ given, value = FilterValue.ofJson key given := by
  cases document with
  | object members =>
      rw [ofJson, entries, ofMembers_eq_mapEntries] at hentry
      obtain ⟨member, -, hmember⟩ := List.mem_map.1 hentry
      cases hmember
      exact ⟨member.2, rfl⟩
  | _ => cases hentry

end Filter

theorem FilterValue.nested_of_ofJson_eq_mapping {key : String} {given : Json} {nested : Filter}
    {members : List (String × Json)}
    (hvalue : FilterValue.ofJson key given = .mapping nested members) :
    nested = Filter.ofJson (.object members) := by
  cases hkey : Combinator.ofKey? key with
  | some combinator => cases given <;> simp [FilterValue.ofJson, hkey] at hvalue
  | none =>
      cases given with
      | object given =>
          simp only [FilterValue.ofJson, hkey, FilterValue.mapping.injEq] at hvalue
          obtain ⟨hnested, rfl⟩ := hvalue
          rw [← hnested, Filter.ofJson]
      | _ => simp [FilterValue.ofJson, hkey] at hvalue

theorem FilterValue.exists_of_mem_branches {key : String} {given : Json} {combinator : Combinator}
    {branches : List Filter} {branch : Filter}
    (hvalue : FilterValue.ofJson key given = .combinator combinator branches)
    (hbranch : branch ∈ branches) : ∃ item, branch = Filter.ofJson item := by
  cases hkey : Combinator.ofKey? key with
  | none => cases given <;> simp [FilterValue.ofJson, hkey] at hvalue
  | some named =>
      cases given with
      | array items =>
          simp only [FilterValue.ofJson, hkey, FilterValue.combinator.injEq] at hvalue
          rw [← hvalue.2, Filter.ofItems_eq_map] at hbranch
          obtain ⟨item, -, hitem⟩ := List.mem_map.1 hbranch
          exact ⟨item, hitem.symm⟩
      | object members =>
          simp only [FilterValue.ofJson, hkey, FilterValue.combinator.injEq] at hvalue
          rw [← hvalue.2, List.mem_singleton] at hbranch
          exact ⟨.object members, by rw [hbranch, Filter.ofJson]⟩
      | _ =>
          simp only [FilterValue.ofJson, hkey, FilterValue.combinator.injEq] at hvalue
          rw [← hvalue.2, List.mem_singleton] at hbranch
          exact ⟨.null, by rw [hbranch, Filter.ofJson]; simp⟩

/-- Both forms of an object stay in step at every depth. -/
theorem Filter.Contains.nested_eq {filter : Filter} {value : FilterValue}
    (hcontains : filter.Contains value) {document : Json} (hfilter : filter = ofJson document)
    {inner : Filter} {members : List (String × Json)} (hvalue : value = .mapping inner members) :
    inner = ofJson (.object members) := by
  induction hcontains generalizing document with
  | entry hentry =>
      rw [hfilter] at hentry
      obtain ⟨given, hgiven⟩ := exists_of_mem_entries_ofJson hentry
      exact FilterValue.nested_of_ofJson_eq_mapping (hgiven.symm.trans hvalue)
  | branch hentry hbranch _ ih =>
      rw [hfilter] at hentry
      obtain ⟨given, hgiven⟩ := exists_of_mem_entries_ofJson hentry
      obtain ⟨item, hitem⟩ := FilterValue.exists_of_mem_branches hgiven.symm hbranch
      exact ih hitem hvalue
  | nested hentry _ ih =>
      rw [hfilter] at hentry
      obtain ⟨given, hgiven⟩ := exists_of_mem_entries_ofJson hentry
      exact ih (FilterValue.nested_of_ofJson_eq_mapping hgiven.symm) hvalue

/-- What is read from the text of an object is built from its pairs. -/
theorem Filter.parse_writesObject {pairs : List (String × Json)} {text : String}
    (htext : WritesObject (Json.maxDepth - 1) pairs text) : parse text = .ok (build pairs) := by
  obtain ⟨members, rfl, rfl⟩ := htext
  obtain ⟨chars, hchars, hmembers⟩ := WrittenMember.members_objectText members
  have hread := Reader.filter_of_members hmembers
  rw [List.reverse_reverse, ofJson_ofPairs] at hread
  refine Reader.document_eq_ok_iff.2 ⟨[], ?_, rfl⟩
  rw [hchars]
  exact hread

/-- Every list of pairs is written as the text of an object, and the filter that is read from any
such text is the one built by setting the keys one after another.  No key of the filter is repeated,
the keys stand in the order in which they first appear, and the last value given for a key decides.
At every depth an object is kept in two forms that agree. -/
theorem Filter.parse_written_pairs (pairs : List (String × Json)) :
    ((∀ pair ∈ pairs, pair.2.Writable (Json.maxDepth - 1)) →
      ∃ text, WritesObject (Json.maxDepth - 1) pairs text) ∧
    (∀ text, WritesObject (Json.maxDepth - 1) pairs text → parse text = .ok (build pairs)) ∧
    (Named.names (build pairs).entries).Nodup ∧
    Named.names (build pairs).entries = (Named.names pairs).eraseDups ∧
    (∀ key, (build pairs).get? key =
      (Named.get? key pairs.reverse).map (FilterValue.ofJson key)) ∧
    ∀ inner members, (build pairs).Contains (.mapping inner members) →
      inner = ofJson (.object members) := by
  refine ⟨fun hvalues => ?_, fun text => parse_writesObject, ?_, names_entries_build pairs,
    get?_build pairs, fun inner members hcontains => ?_⟩
  · exact exists_writesObject_iff.2 fun pair hpair => (hvalues pair hpair).hasText
  · rw [entries_build]
    exact Named.nodup_names_ofPairs _
  · exact hcontains.nested_eq (ofJson_ofPairs pairs).symm rfl

/-- A combinator and an object that are both given twice. -/
theorem Filter.parse_written_pairs_of_repeated_keys :
    let pairs := [("or", .array [.null]), ("a", .object [("b", .bool true)]), ("or", .object []),
      ("a", .object [("c", Json.ofNat 7)])]
    let text := "\x7b\"or\":[null],\"a\":\x7b\"b\":true\x7d,\"\\u006fr\":\x7b\x7d" ++
      ", \"a\" : \x7b\"c\":7\x7d\x7d"
    (∀ pair ∈ pairs, pair.2.Writable (Json.maxDepth - 1)) ∧
      (∃ written, WritesObject (Json.maxDepth - 1) pairs written) ∧
      WritesObject (Json.maxDepth - 1) pairs text ∧
      parse text = .ok (.ofEntries [("or", .combinator .or [empty]),
        ("a", .mapping (.ofEntries [("c", .scalar (.ofNat 7))]) [("c", .ofNat 7)])]) := by
  intro pairs text
  have hvalues : ∀ pair ∈ pairs, pair.2.Writable (Json.maxDepth - 1) := by
    refine List.forall_mem_cons.2 ⟨.array ?_, List.forall_mem_cons.2 ⟨.object (by decide) ?_,
      List.forall_mem_cons.2 ⟨.object List.nodup_nil ?_,
        List.forall_mem_singleton.2 (.object (by decide) ?_)⟩⟩⟩
    · exact List.forall_mem_singleton.2 (.null _)
    · exact List.forall_mem_singleton.2 (.bool _ true)
    · exact fun _ hmem => (List.not_mem_nil hmem).elim
    · exact List.forall_mem_singleton.2 (.integer _ (by decide) (by decide))
  have htext : WritesObject (Json.maxDepth - 1) pairs text := ⟨[
    ⟨"or", _, "\"or\"", "[null]", rfl, rfl⟩,
    ⟨"a", _, "\"a\"", "\x7b\"b\":true\x7d", rfl, rfl⟩,
    ⟨"or", _, "\"\\u006fr\"", "\x7b\x7d", rfl, rfl⟩,
    ⟨"a", _, " \"a\" ", " \x7b\"c\":7\x7d", rfl, rfl⟩], rfl, rfl⟩
  obtain ⟨hwritten, hparse, -⟩ := parse_written_pairs pairs
  exact ⟨hvalues, hwritten hvalues, htext, hparse text htext⟩

end FilterQuery
