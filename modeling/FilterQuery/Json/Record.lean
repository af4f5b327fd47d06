import FilterQuery.Json.Skip

/-!
# Reading documents of a fixed shape

A record is written as an object, or as an array of its values in the order of its fields.  What is
wrong with a name, unknown or repeated, is reported at the name and before its value is read.
-/

namespace FilterQuery.Reader

def mismatch {α : Type} (problem : Json.Mismatch) : Except ReadError α :=
  .error (.mismatch problem)

/-- Reports a value that is not of the expected type.  Only its beginning is read if it is a
container; otherwise it has to be well formed. -/
def unexpected {α : Type} (expected : String) : Reader α := fun chars =>
  match chars with
  | '[' :: _ => mismatch (.wrongType .sequence expected)
  | '\x7b' :: _ => mismatch (.wrongType .map expected)
  | chars => do
      let (value, _) ← scalar chars
      mismatch (.wrongType value.found expected)

/-- What is reported does not depend on what was to be read. -/
theorem exists_unexpected_eq_error (expected : String) (chars : List Char) :
    ∃ problem, ∀ α : Type, unexpected (α := α) expected chars = .error problem := by
  unfold unexpected
  split
  · exact ⟨_, fun _ => rfl⟩
  · exact ⟨_, fun _ => rfl⟩
  · cases scalar _ with
    | error problem => exact ⟨problem, fun _ => rfl⟩
    | ok found => exact ⟨_, fun _ => rfl⟩

theorem unexpected_ne_ok {α : Type} (expected : String) (chars : List Char)
    (found : α × List Char) : unexpected expected chars ≠ .ok found := by
  obtain ⟨problem, hproblem⟩ := exists_unexpected_eq_error expected chars
  simp [hproblem]

def text : Reader String := fun chars =>
  match skipSpace chars with
  | [] => .error .unfinished
  | '"' :: rest => string rest
  | chars => unexpected "a string" chars

def flag : Reader Bool := fun chars =>
  match skipSpace chars with
  | [] => .error .unfinished
  | 't' :: rest => do
      let ((), rest) ← literal ['r', 'u', 'e'] rest
      return (true, rest)
  | 'f' :: rest => do
      let ((), rest) ← literal ['a', 'l', 's', 'e'] rest
      return (false, rest)
  | chars => unexpected "a boolean" chars

def word32 : Reader UInt32 := fun chars =>
  match skipSpace chars with
  | [] => .error .unfinished
  | c :: rest =>
      if c = '-' ∨ c.isDigit then do
        let (number, rest) ← if c = '-' then numeral true rest else numeral false (c :: rest)
        match number with
        | .integer value =>
            if 0 ≤ value ∧ value < Nat.pow 2 32 then return (UInt32.ofNat value.toNat, rest)
            else mismatch (.wrongValue (.number number) "u32")
        | .real _ => mismatch (.wrongType (.number number) "u32")
      else unexpected "u32" (c :: rest)

def optional {α : Type} (reader : Reader α) : Reader (Option α) := fun chars =>
  match skipSpace chars with
  | 'n' :: rest => do
      let ((), rest) ← literal ['u', 'l', 'l'] rest
      return (none, rest)
  | chars => do
      let (value, rest) ← reader chars
      return (some value, rest)

/-- Reads behind an opening bracket or brace, one level deeper. -/
def nested {α : Type} (inner : Nat → Reader α) : Nat → Reader α
  | 0, _ => .error .malformed
  | depth + 1, rest => inner depth rest

def listOf {α : Type} (item : Nat → Reader α) (depth : Nat) : Reader (List α) := fun chars =>
  match skipSpace chars with
  | [] => .error .unfinished
  | '[' :: rest => nested (fun depth => items (item depth)) depth rest
  | chars => unexpected "a sequence" chars

/-- An object with values of one kind under any names; a repeated name takes the last value. -/
def mapOf {α : Type} (item : Nat → Reader α) (depth : Nat) : Reader (Named α) := fun chars =>
  match skipSpace chars with
  | [] => .error .unfinished
  | '\x7b' :: rest => do
      let (pairs, rest) ← nested (fun depth => pairs (item depth)) depth rest
      return (Named.ofPairs pairs, rest)
  | chars => unexpected "a map" chars

/-! ## Variants -/

def variantNamed {α : Type} (variants : Named α) (name : String) : Except ReadError α :=
  match Named.get? name variants with
  | some variant => .ok variant
  | none => mismatch (.unknownVariant name (Named.names variants))

def unit : Reader Unit := fun chars =>
  match skipSpace chars with
  | [] => .error .unfinished
  | 'n' :: rest => literal ['u', 'l', 'l'] rest
  | chars => unexpected "unit" chars

/-- One of several names, as a string or as an object with a null under that name. -/
def variantOf {α : Type} (variants : Named α) (depth : Nat) : Reader α := fun chars =>
  match skipSpace chars with
  | [] => .error .unfinished
  | '"' :: rest => do
      let (name, rest) ← string rest
      return (← variantNamed variants name, rest)
  | '\x7b' :: rest =>
      match depth with
      | 0 => .error .malformed
      | _ + 1 =>
          match skipSpace rest with
          | [] => .error .unfinished
          | '"' :: rest => do
              let (name, rest) ← string rest
              let variant ← variantNamed variants name
              let ((), rest) ← colon rest
              let ((), rest) ← unit rest
              let ((), rest) ← closeObject rest
              return (variant, rest)
          | _ => .error .malformed
  | _ => .error .malformed

end FilterQuery.Reader

namespace FilterQuery

/-! ## Records -/

/-- A field of a record whose values are collected in `σ`.  A field with a default may be missing
at the end of the array form. -/
structure RecordField (σ : Type) where
  name : String
  hasDefault : Bool
  isSet : σ → Bool
  read : Nat → σ → Reader σ

/-- What happens to a member under an unknown name: it is refused, or its value is skipped, or its
value is read and then forgotten. -/
inductive UnknownName
  | refused
  | skipped
  | forgotten

/-- The shape of a record that is collected in `σ` and gives an `α`. -/
structure RecordShape (σ α : Type) where
  name : String
  fields : List (RecordField σ)
  unknown : UnknownName
  hasArrayForm : Bool
  initial : σ
  finish : σ → Except Json.Mismatch α

namespace RecordShape

variable {σ α : Type}

def expected (shape : RecordShape σ α) : String :=
  "struct " ++ shape.name

def expectedItems (shape : RecordShape σ α) : String :=
  let count := shape.fields.length
  shape.expected ++ " with " ++ toString count ++ (if count = 1 then " element" else " elements")

/-- The values of the array form, from the field at `index` on. -/
def readItems (shape : RecordShape σ α) (depth : Nat) :
    List (RecordField σ) → Nat → σ → Reader σ
  | [], _, state, chars => .ok (state, chars)
  | field :: fields, index, state, chars => do
      let (more, rest) ← Reader.nextItem (index == 0) chars
      if more then
        let (state, rest) ← field.read depth state rest
        shape.readItems depth fields (index + 1) state rest
      else if field.hasDefault then
        shape.readItems depth fields (index + 1) state rest
      else Reader.mismatch (.wrongLength index shape.expectedItems)

def readMember (shape : RecordShape σ α) (depth : Nat) (state : σ) (name : String) :
    Reader σ := fun chars =>
  match shape.fields.find? (·.name == name) with
  | some field =>
      if field.isSet state then Reader.mismatch (.duplicateField name)
      else do
        let ((), rest) ← Reader.colon chars
        field.read depth state rest
  | none =>
      match shape.unknown with
      | .refused => Reader.mismatch (.unknownField name (shape.fields.map (·.name)))
      | .skipped => do
          let ((), rest) ← Reader.colon chars
          let ((), rest) ← Reader.skip rest
          return (state, rest)
      | .forgotten => do
          let ((), rest) ← Reader.colon chars
          let (_, rest) ← Reader.value depth rest
          return (state, rest)

def finishRecord (shape : RecordShape σ α) (state : σ) : Except ReadError α :=
  match shape.finish state with
  | .ok record => .ok record
  | .error problem => Reader.mismatch problem

def read (shape : RecordShape σ α) (depth : Nat) : Reader α := fun chars =>
  match Reader.skipSpace chars with
  | [] => .error .unfinished
  | '\x7b' :: rest => do
      let (state, rest) ←
        Reader.nested (fun depth => Reader.members (shape.readMember depth) shape.initial) depth
          rest
      return (← shape.finishRecord state, rest)
  | '[' :: rest =>
      if shape.hasArrayForm then do
        let (state, rest) ←
          Reader.nested (fun depth => shape.readItems depth shape.fields 0 shape.initial) depth
            rest
        let record ← shape.finishRecord state
        let ((), rest) ← Reader.closeArray rest
        return (record, rest)
      else Reader.mismatch (.wrongType .sequence shape.expected)
  | chars => Reader.unexpected shape.expected chars

def parse (shape : RecordShape σ α) (text : String) : Except ReadError α :=
  Reader.document (shape.read Json.maxDepth) text

end RecordShape

def required {α : Type} (name : String) (slot : Option α) : Except Json.Mismatch α :=
  match slot with
  | some value => .ok value
  | none => .error (.missingField name)

end FilterQuery
