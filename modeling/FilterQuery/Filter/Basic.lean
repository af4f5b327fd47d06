import FilterQuery.Json.Record

/-!
# Filters

A filter is a list of values under keys.  The shape of each value is decided when the filter is
built: lists of filters under the keys `and`, `or` and `not`, and elsewhere a list, an object or a
single value.  Whether an object holds operators or the filter of a relation is left open.
-/

namespace FilterQuery

inductive Combinator
  | and
  | or
  | not
  deriving DecidableEq, Repr

def Combinator.ofKey? : String → Option Combinator
  | "and" => some .and
  | "or" => some .or
  | "not" => some .not
  | _ => none

def Combinator.separator : Combinator → String
  | .and | .not => " AND "
  | .or => " OR "

mutual

inductive FilterValue
  | combinator (combinator : Combinator) (branches : List Filter)
  | sequence (items : List Json)
  /-- An object, both as a filter and as it was given. -/
  | mapping (nested : Filter) (members : List (String × Json))
  | scalar (value : Json)

inductive Filter
  | ofEntries (entries : List (String × FilterValue))

end

namespace Filter

def empty : Filter := .ofEntries []

def entries : Filter → Named FilterValue
  | .ofEntries entries => entries

def set (filter : Filter) (key : String) (value : FilterValue) : Filter :=
  .ofEntries (Named.set key value filter.entries)

def get? (filter : Filter) (key : String) : Option FilterValue :=
  Named.get? key filter.entries

def size (filter : Filter) : Nat :=
  filter.entries.length

def isEmpty (filter : Filter) : Bool :=
  filter.entries.isEmpty

end Filter

mutual

def FilterValue.ofJson (key : String) : Json → FilterValue
  | .array items =>
      match Combinator.ofKey? key with
      | some combinator => .combinator combinator (Filter.ofItems items)
      | none => .sequence items
  | .object members =>
      match Combinator.ofKey? key with
      | some combinator => .combinator combinator [.ofEntries (Filter.ofMembers members)]
      | none => .mapping (.ofEntries (Filter.ofMembers members)) members
  | value =>
      match Combinator.ofKey? key with
      | some combinator => .combinator combinator [.ofEntries []]
      | none => .scalar value
termination_by structural value => value

def Filter.ofMembers : List (String × Json) → List (String × FilterValue)
  | [] => []
  | (key, value) :: rest => (key, FilterValue.ofJson key value) :: Filter.ofMembers rest
termination_by structural members => members

/-- The filter of a value; what is not an object gives the empty filter. -/
def Filter.ofJson : Json → Filter
  | .object members => .ofEntries (Filter.ofMembers members)
  | _ => .ofEntries []
termination_by structural value => value

def Filter.ofItems : List Json → List Filter
  | [] => []
  | item :: rest => Filter.ofJson item :: Filter.ofItems rest
termination_by structural items => items

end

mutual

/-- The number of levels of objects in a filter.  The empty filter has one. -/
def Filter.depth : Filter → Nat
  | .ofEntries entries => 1 + Filter.depthOfEntries entries
termination_by structural filter => filter

def FilterValue.depth : FilterValue → Nat
  | .combinator _ branches => Filter.depthOfBranches branches
  | .mapping nested _ => nested.depth
  | .sequence _ | .scalar _ => 0
termination_by structural value => value

def Filter.depthOfBranches : List Filter → Nat
  | [] => 0
  | branch :: rest => max branch.depth (Filter.depthOfBranches rest)
termination_by structural branches => branches

def Filter.depthOfEntries : List (String × FilterValue) → Nat
  | [] => 0
  | (_, value) :: rest => max value.depth (Filter.depthOfEntries rest)
termination_by structural entries => entries

end

namespace Filter

/-- An object is read completely before its members are looked at. -/
def read (depth : Nat) : Reader Filter := fun chars => do
  let (members, rest) ← Reader.mapOf Reader.value depth chars
  return (.ofEntries (ofMembers members), rest)

def parse (text : String) : Except ReadError Filter :=
  Reader.document (read Json.maxDepth) text

end Filter

end FilterQuery
