import FilterQuery.Proofs.ParameterNumbering

/-!
# Filters without what they do not say

The compiler passes over operators it does not know, values under a relation that are not objects,
and combinators of nothing.  Here these parts are removed from the filter itself, at every level and
with the relations that hold there.  What is left compiles to the same clause with the same
parameters and the same numbers, and every entry that is left has a part in the clause.
-/

namespace FilterQuery

/-! ## What is left of an object -/

def isOperatorMember (member : String × Json) : Bool :=
  (Operator.ofName? member.1).isSome

mutual

/-- What is left of the value under a key, if anything is. -/
def Json.prune? (relations : RelationMap) (key : String) : Json → Option Json
  | .array items =>
      match Combinator.ofKey? key with
      | some _ =>
          let kept := pruneItems relations items
          if kept.isEmpty then none else some (.array kept)
      | none => if relations.contains key then none else some (.array items)
  | .object members =>
      match Combinator.ofKey? key with
      | some _ =>
          let kept := pruneMembers relations members
          if kept.isEmpty then none else some (.object kept)
      | none =>
          let kept :=
            match relations.get? key with
            | some inner => pruneMembers inner members
            | none => members.filter isOperatorMember
          if kept.isEmpty then none else some (.object kept)
  | value =>
      match Combinator.ofKey? key with
      | some _ => none
      | none => if relations.contains key then none else some value
termination_by structural value => value

def pruneMembers (relations : RelationMap) : List (String × Json) → List (String × Json)
  | [] => []
  | (key, value) :: rest =>
      match value.prune? relations key with
      | some kept => (key, kept) :: pruneMembers relations rest
      | none => pruneMembers relations rest
termination_by structural members => members

/-- What is left of the members of an object; nothing else has any. -/
def Json.prunedMembers (relations : RelationMap) : Json → List (String × Json)
  | .object members => pruneMembers relations members
  | _ => []
termination_by structural value => value

def pruneItems (relations : RelationMap) : List Json → List Json
  | [] => []
  | item :: rest =>
      let kept := item.prunedMembers relations
      if kept.isEmpty then pruneItems relations rest else .object kept :: pruneItems relations rest
termination_by structural items => items

end

/-! ## What is left of a filter -/

mutual

/-- A filter without the parts that have no meaning where these relations hold. -/
def Filter.prune (relations : RelationMap) : Filter → Filter
  | .ofEntries entries => .ofEntries (pruneEntries relations entries)
termination_by structural filter => filter

/-- Both copies of an object are pruned. -/
def FilterValue.prune? (relations : RelationMap) (key : String) :
    FilterValue → Option FilterValue
  | .combinator combinator branches =>
      let kept := pruneBranches relations branches
      if kept.isEmpty then none else some (.combinator combinator kept)
  | .mapping nested members =>
      match relations.get? key with
      | some inner =>
          let kept := nested.prune inner
          if kept.isEmpty then none else some (.mapping kept (pruneMembers inner members))
      | none =>
          let kept := members.filter isOperatorMember
          if kept.isEmpty then none else some (.mapping (.ofEntries (Filter.ofMembers kept)) kept)
  | .sequence items => if relations.contains key then none else some (.sequence items)
  | .scalar value => if relations.contains key then none else some (.scalar value)
termination_by structural value => value

def pruneEntries (relations : RelationMap) :
    List (String × FilterValue) → List (String × FilterValue)
  | [] => []
  | (key, value) :: rest =>
      match value.prune? relations key with
      | some kept => (key, kept) :: pruneEntries relations rest
      | none => pruneEntries relations rest
termination_by structural entries => entries

def pruneBranches (relations : RelationMap) : List Filter → List Filter
  | [] => []
  | branch :: rest =>
      let kept := branch.prune relations
      if kept.isEmpty then pruneBranches relations rest else kept :: pruneBranches relations rest
termination_by structural branches => branches

end

/-! ## Both copies of an object stay in step -/

theorem Filter.isEmpty_ofEntries_ofMembers (members : List (String × Json)) :
    (Filter.ofEntries (Filter.ofMembers members)).isEmpty = members.isEmpty := by
  cases members with
  | nil => rfl
  | cons member rest => rfl

mutual

theorem FilterValue.prune?_ofJson (relations : RelationMap) (key : String) :
    (value : Json) →
      (FilterValue.ofJson key value).prune? relations key =
        (value.prune? relations key).map (FilterValue.ofJson key)
  | .array items => by
      rw [FilterValue.ofJson, Json.prune?]
      cases hkey : Combinator.ofKey? key with
      | some combinator =>
          have hitems := pruneBranches_ofItems relations items
          simp only [FilterValue.prune?, hitems]
          cases pruneItems relations items with
          | nil => rfl
          | cons item rest => simp [Filter.ofItems, FilterValue.ofJson, hkey]
      | none =>
          cases hrelation : relations.contains key with
          | true => simp [FilterValue.prune?, hrelation]
          | false => simp [FilterValue.prune?, FilterValue.ofJson, hkey, hrelation]
  | .object members => by
      rw [FilterValue.ofJson, Json.prune?]
      cases hkey : Combinator.ofKey? key with
      | some combinator =>
          have hmembers := pruneEntries_ofMembers relations members
          simp only [FilterValue.prune?, pruneBranches, Filter.prune, hmembers,
            Filter.isEmpty_ofEntries_ofMembers]
          cases pruneMembers relations members with
          | nil => rfl
          | cons member rest => simp [FilterValue.ofJson, hkey]
      | none =>
          cases hrelation : relations.get? key with
          | some inner =>
              have hmembers := pruneEntries_ofMembers inner members
              simp only [FilterValue.prune?, hrelation, Filter.prune, hmembers,
                Filter.isEmpty_ofEntries_ofMembers]
              cases pruneMembers inner members with
              | nil => rfl
              | cons member rest => simp [FilterValue.ofJson, hkey]
          | none =>
              simp only [FilterValue.prune?, hrelation]
              cases members.filter isOperatorMember with
              | nil => rfl
              | cons member rest => simp [FilterValue.ofJson, hkey]
  | .null | .bool _ | .number _ | .string _ => by
      simp only [FilterValue.ofJson, Json.prune?]
      cases hkey : Combinator.ofKey? key with
      | some combinator => rfl
      | none =>
          cases hrelation : relations.contains key with
          | true => simp [FilterValue.prune?, hrelation]
          | false => simp [FilterValue.prune?, FilterValue.ofJson, hkey, hrelation]
termination_by structural value => value

theorem pruneEntries_ofMembers (relations : RelationMap) :
    (members : List (String × Json)) →
      pruneEntries relations (Filter.ofMembers members) =
        Filter.ofMembers (pruneMembers relations members)
  | [] => rfl
  | (key, value) :: rest => by
      have hvalue := FilterValue.prune?_ofJson relations key value
      have hrest := pruneEntries_ofMembers relations rest
      rw [Filter.ofMembers, pruneEntries, pruneMembers, hvalue, hrest]
      cases value.prune? relations key with
      | none => rfl
      | some kept => rfl
termination_by structural members => members

theorem Filter.prune_ofJson (relations : RelationMap) :
    (value : Json) →
      (Filter.ofJson value).prune relations =
        .ofEntries (Filter.ofMembers (value.prunedMembers relations))
  | .object members => by
      rw [Filter.ofJson, Filter.prune, pruneEntries_ofMembers relations members,
        Json.prunedMembers]
  | .null | .bool _ | .number _ | .string _ | .array _ => rfl
termination_by structural value => value

theorem pruneBranches_ofItems (relations : RelationMap) :
    (items : List Json) →
      pruneBranches relations (Filter.ofItems items) =
        Filter.ofItems (pruneItems relations items)
  | [] => rfl
  | item :: rest => by
      have hitem := Filter.prune_ofJson relations item
      have hrest := pruneBranches_ofItems relations rest
      rw [Filter.ofItems, pruneBranches, pruneItems, hitem, hrest,
        Filter.isEmpty_ofEntries_ofMembers]
      cases item.prunedMembers relations with
      | nil => rfl
      | cons member members => rfl
termination_by structural items => items

end

/-! ## What is removed adds nothing -/

namespace Compiled

theorem enclosed_nothing (next : Nat) : (nothing next).enclosed = nothing next := rfl

theorem Binds.nothing_followedBy {rest : Nat → Compiled} {next : Nat} {values : List Json}
    (hbinds : (rest next).Binds next values) : (nothing next).followedBy rest = rest next := by
  have hextend : Named.extend [] (rest next).parameters = (rest next).parameters := by
    rw [hbinds.parameters]
    exact extend_numberedParameters next [] values
  simp only [Compiled.followedBy, nothing, List.nil_append, hextend]

end Compiled

theorem CompiledBranches.Binds.extend_nil {branches : CompiledBranches} {first : Nat}
    {values : List Json} (hbinds : branches.Binds first values) :
    Named.extend [] branches.parameters = branches.parameters := by
  rw [hbinds.parameters]
  exact extend_numberedParameters first [] values

theorem Filter.compile_of_isEmpty {filter : Filter} (hempty : filter.isEmpty = true)
    (tableAlias : String) (relations : RelationMap) (next : Nat) :
    filter.compile tableAlias relations next = .nothing next := by
  obtain ⟨entries⟩ := filter
  have hentries : entries = [] := List.isEmpty_iff.mp hempty
  rw [hentries]
  rfl

theorem compileOperators_filter (column : Column) (members : List (String × Json)) (next : Nat) :
    compileOperators column (members.filter isOperatorMember) next =
      compileOperators column members next := by
  induction members generalizing next with
  | nil => rfl
  | cons member rest ih =>
      obtain ⟨name, operand⟩ := member
      cases hname : Operator.ofName? name with
      | none => simp [isOperatorMember, compileOperators, hname, ih]
      | some operator =>
          have hrest : compileOperators column (rest.filter isOperatorMember) =
              compileOperators column rest := funext ih
          simp [isOperatorMember, compileOperators, hname, hrest]

mutual

/-- What is removed from a filter leaves no trace in what it compiles to. -/
theorem Filter.compile_prune (tableAlias : String) (relations : RelationMap) :
    (filter : Filter) → (next : Nat) →
      (filter.prune relations).compile tableAlias relations next =
        filter.compile tableAlias relations next
  | .ofEntries entries, next => by
      rw [Filter.prune, Filter.compile, Filter.compile]
      exact compileEntries_pruneEntries tableAlias relations entries next
termination_by structural filter => filter

theorem FilterValue.compile_prune? (tableAlias : String) (relations : RelationMap)
    (key : String) :
    (value : FilterValue) → (next : Nat) →
      ((value.prune? relations key).elim (.nothing next) fun kept =>
          kept.compile tableAlias relations key next) =
        value.compile tableAlias relations key next
  | .combinator combinator branches, next => by
      have hbranches := compileBranches_pruneBranches tableAlias relations branches next
      rw [FilterValue.prune?, FilterValue.compile, ← hbranches]
      cases pruneBranches relations branches with
      | nil => rfl
      | cons branch rest => rfl
  | .mapping nested members, next => by
      rw [FilterValue.prune?, FilterValue.compile]
      cases hrelation : relations.get? key with
      | some inner =>
          have hnested := nested.compile_prune key inner next
          cases hempty : (nested.prune inner).isEmpty with
          | true =>
              rw [Filter.compile_of_isEmpty hempty] at hnested
              simp [hempty, ← hnested, Compiled.enclosed_nothing]
          | false => simp [hempty, FilterValue.compile, hrelation, hnested]
      | none =>
          have hmembers := compileOperators_filter ⟨tableAlias, key⟩ members next
          cases hkept : members.filter isOperatorMember with
          | nil =>
              rw [hkept] at hmembers
              simp [← hmembers, compileOperators]
          | cons member rest =>
              rw [hkept] at hmembers
              simp [FilterValue.compile, hrelation, hmembers]
  | .sequence items, next => by
      rw [FilterValue.prune?, FilterValue.compile]
      cases hrelation : relations.contains key with
      | true => rfl
      | false => simp [FilterValue.compile, hrelation]
  | .scalar value, next => by
      rw [FilterValue.prune?, FilterValue.compile]
      cases hrelation : relations.contains key with
      | true => rfl
      | false => simp [FilterValue.compile, hrelation]
termination_by structural value => value

theorem compileEntries_pruneEntries (tableAlias : String) (relations : RelationMap) :
    (entries : List (String × FilterValue)) → (next : Nat) →
      compileEntries tableAlias relations (pruneEntries relations entries) next =
        compileEntries tableAlias relations entries next
  | [], next => rfl
  | (key, value) :: rest, next => by
      have hvalue := value.compile_prune? tableAlias relations key next
      have hbinds := compileEntries_binds tableAlias relations rest next
      have hrest : compileEntries tableAlias relations (pruneEntries relations rest) =
          compileEntries tableAlias relations rest :=
        funext (compileEntries_pruneEntries tableAlias relations rest)
      rw [pruneEntries, compileEntries, ← hvalue]
      -- A removed entry issues no number, so the rest starts where the entry did.
      cases value.prune? relations key with
      | none => rw [Option.elim_none, hbinds.nothing_followedBy, hrest]
      | some kept => rw [Option.elim_some, compileEntries, hrest]
termination_by structural entries => entries

theorem compileBranches_pruneBranches (tableAlias : String) (relations : RelationMap) :
    (branches : List Filter) → (next : Nat) →
      compileBranches tableAlias relations (pruneBranches relations branches) next =
        compileBranches tableAlias relations branches next
  | [], next => rfl
  | branch :: rest, next => by
      have hbranch := branch.compile_prune tableAlias relations next
      have hrest := compileBranches_pruneBranches tableAlias relations rest
      rw [pruneBranches, compileBranches, ← hbranch, ← hrest]
      cases hempty : (branch.prune relations).isEmpty with
      | true =>
          have hbinds := compileBranches_binds tableAlias relations rest next
          rw [← hrest] at hbinds
          simp [Filter.compile_of_isEmpty hempty, Compiled.nothing, hbinds.extend_nil]
      | false => simp [compileBranches]
termination_by structural branches => branches

end

/-! ## What is left has a part in the clause -/

theorem compileOperators_isEmpty (column : Column) (members : List (String × Json))
    (next : Nat) :
    (members.filter isOperatorMember).isEmpty =
      (compileOperators column members next).clause.isEmpty := by
  induction members generalizing next with
  | nil => rfl
  | cons member rest ih =>
      obtain ⟨name, operand⟩ := member
      cases hname : Operator.ofName? name with
      | none => simpa [isOperatorMember, compileOperators, hname] using ih next
      | some operator =>
          simp [isOperatorMember, compileOperators, hname, Compiled.followedBy,
            Compiled.comparison]

mutual

theorem Filter.isEmpty_prune (tableAlias : String) (relations : RelationMap) :
    (filter : Filter) → (next : Nat) →
      (filter.prune relations).isEmpty =
        (filter.compile tableAlias relations next).clause.isEmpty
  | .ofEntries entries, next => by
      rw [Filter.prune, Filter.compile]
      exact pruneEntries_isEmpty tableAlias relations entries next
termination_by structural filter => filter

theorem FilterValue.isNone_prune? (tableAlias : String) (relations : RelationMap)
    (key : String) :
    (value : FilterValue) → (next : Nat) →
      (value.prune? relations key).isNone =
        (value.compile tableAlias relations key next).clause.isEmpty
  | .combinator combinator branches, next => by
      have hbranches := pruneBranches_isEmpty tableAlias relations branches next
      rw [FilterValue.prune?, FilterValue.compile, Compiled.combined]
      simp only [hbranches]
      cases (compileBranches tableAlias relations branches next).clauses with
      | nil => rfl
      | cons clause rest => rfl
  | .mapping nested members, next => by
      rw [FilterValue.prune?, FilterValue.compile]
      cases relations.get? key with
      | some inner =>
          have hnested := nested.isEmpty_prune key inner next
          simp only [hnested, Compiled.enclosed]
          cases (nested.compile key inner next).clause with
          | nil => rfl
          | cons condition rest => rfl
      | none =>
          have hmembers := compileOperators_isEmpty ⟨tableAlias, key⟩ members next
          simp only [hmembers]
          cases (compileOperators ⟨tableAlias, key⟩ members next).clause with
          | nil => rfl
          | cons condition rest => rfl
  | .sequence items, next => by
      rw [FilterValue.prune?, FilterValue.compile]
      cases relations.contains key with
      | true => rfl
      | false => rfl
  | .scalar value, next => by
      rw [FilterValue.prune?, FilterValue.compile]
      cases relations.contains key with
      | true => rfl
      | false => rfl
termination_by structural value => value

theorem pruneEntries_isEmpty (tableAlias : String) (relations : RelationMap) :
    (entries : List (String × FilterValue)) → (next : Nat) →
      (pruneEntries relations entries).isEmpty =
        (compileEntries tableAlias relations entries next).clause.isEmpty
  | [], next => rfl
  | (key, value) :: rest, next => by
      have hvalue := value.isNone_prune? tableAlias relations key next
      have hrest := pruneEntries_isEmpty tableAlias relations rest
        (value.compile tableAlias relations key next).next
      rw [pruneEntries, compileEntries, Compiled.followedBy]
      cases hkept : value.prune? relations key with
      | none =>
          rw [hkept, Option.isNone_none] at hvalue
          rw [List.isEmpty_iff.mp hvalue.symm, List.nil_append]
          exact hrest
      | some kept =>
          rw [hkept, Option.isNone_some, eq_comm, List.isEmpty_eq_false_iff] at hvalue
          simp [hvalue]
termination_by structural entries => entries

theorem pruneBranches_isEmpty (tableAlias : String) (relations : RelationMap) :
    (branches : List Filter) → (next : Nat) →
      (pruneBranches relations branches).isEmpty =
        (compileBranches tableAlias relations branches next).clauses.isEmpty
  | [], next => rfl
  | branch :: rest, next => by
      have hbranch := branch.isEmpty_prune tableAlias relations next
      have hrest := pruneBranches_isEmpty tableAlias relations rest
        (branch.compile tableAlias relations next).next
      rw [pruneBranches, compileBranches, ← hbranch]
      cases (branch.prune relations).isEmpty with
      | true => exact hrest
      | false => rfl
termination_by structural branches => branches

end

/-- Pruning is a pure simplification: a filter and what is left of it compile to the same clause,
parameters and numbers, nothing is left just where there is no clause, and what is left of an object
is again the filter of an object. -/
theorem prune_preserves_compiled :
    (∀ (filter : Filter) (tableAlias : String) (relations : RelationMap) (first : Nat),
      let compiled := filter.compile tableAlias relations first
      (filter.prune relations).compile tableAlias relations first = compiled ∧
        (compiled.text = "" ↔ (filter.prune relations).entries = [])) ∧
      ∀ (value : Json) (relations : RelationMap),
        (Filter.ofJson value).prune relations =
          Filter.ofJson (.object (value.prunedMembers relations)) := by
  constructor
  · intro filter tableAlias relations first compiled
    refine ⟨filter.compile_prune tableAlias relations first, ?_⟩
    have hempty : (filter.prune relations).isEmpty = compiled.clause.isEmpty :=
      filter.isEmpty_prune tableAlias relations first
    calc compiled.text = "" ↔ compiled.clause = [] := Clause.text_eq_empty_iff _
      _ ↔ compiled.clause.isEmpty = true := List.isEmpty_iff.symm
      _ ↔ (filter.prune relations).isEmpty = true := by rw [hempty]
      _ ↔ (filter.prune relations).entries = [] := List.isEmpty_iff
  · intro value relations
    rw [Filter.prune_ofJson, Filter.ofJson]

example :
    let members := [
      ("title", .object [("startsWith", .string "a"), ("eq", .string "b")]),
      ("or", .array [.null, .object [("tags", .object [("first", .string "c")])]]),
      ("author", .object [("id", .ofNat 1), ("posts", .bool true)])]
    let relations := .ofEntries [("author", .ofEntries [("posts", .empty)])]
    (Filter.ofJson (.object members)).prune relations = Filter.ofJson (.object [
      ("title", .object [("eq", .string "b")]),
      ("author", .object [("id", .ofNat 1)])]) := by
  rfl

end FilterQuery
