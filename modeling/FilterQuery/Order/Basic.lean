import FilterQuery.Json.Record

/-!
# Orders

An order gives a direction to each of its keys, or a nested order.  Directions are texts that are
passed on as they are.
-/

namespace FilterQuery

mutual

inductive OrderValue
  | direction (text : String)
  | nested (order : Order)

inductive Order
  | ofEntries (entries : List (String × OrderValue))

end

namespace Order

def entries : Order → List (String × OrderValue)
  | .ofEntries entries => entries

def isEmpty (order : Order) : Bool :=
  order.entries.isEmpty

end Order

mutual

def OrderValue.ofJson? : Json → Option OrderValue
  | .string text => some (.direction text)
  | .object members => do
      let entries ← Order.ofMembers? members
      return .nested (.ofEntries entries)
  | _ => none
termination_by structural value => value

/-- One value that is neither a text nor such an object spoils the whole order. -/
def Order.ofMembers? : List (String × Json) → Option (List (String × OrderValue))
  | [] => some []
  | (key, value) :: rest => do
      let first ← OrderValue.ofJson? value
      let others ← Order.ofMembers? rest
      return (key, first) :: others
termination_by structural members => members

end

mutual

/-- The number of levels; a flat order has one. -/
def Order.depth : Order → Nat
  | .ofEntries entries => 1 + Order.depthOfEntries entries
termination_by structural order => order

def OrderValue.depth : OrderValue → Nat
  | .direction _ => 0
  | .nested order => order.depth
termination_by structural value => value

def Order.depthOfEntries : List (String × OrderValue) → Nat
  | [] => 0
  | (_, value) :: rest => max value.depth (Order.depthOfEntries rest)
termination_by structural entries => entries

end

namespace Order

/-- An object is read completely before its members are looked at. -/
def read (depth : Nat) : Reader Order := fun chars => do
  let (members, rest) ← Reader.mapOf Reader.value depth chars
  match ofMembers? members with
  | some entries => return (.ofEntries entries, rest)
  | none => Reader.mismatch (.noVariant "OrderValue")

def parse (text : String) : Except ReadError Order :=
  Reader.document (read Json.maxDepth) text

end Order

end FilterQuery
