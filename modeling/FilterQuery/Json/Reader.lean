import FilterQuery.Json.Numeral

/-!
# Reading values

The grammar is strict: no comments, no comma behind the last item, no control characters in
strings, and surrogates only in pairs.  Containers may nest `maxDepth` levels deep.  A text is read
from its beginning to its end and the first problem met is the one reported.
-/

namespace FilterQuery

/-- The number of containers that may be open at one time. -/
def Json.maxDepth : Nat := 127

namespace Reader

def isSpace (c : Char) : Bool :=
  c == ' ' || c == '\t' || c == '\n' || c == '\r'

def skipSpace (chars : List Char) : List Char :=
  chars.dropWhile isSpace

def literal : List Char → Reader Unit
  | [], chars => .ok ((), chars)
  | _ :: _, [] => .error .unfinished
  | expected :: others, c :: rest =>
      if c = expected then literal others rest else .error .malformed

/-! ## Strings -/

def hexValue? (c : Char) : Option Nat :=
  if c.isDigit then some (c.toNat - '0'.toNat)
  else if 'a' ≤ c ∧ c ≤ 'f' then some (c.toNat - 'a'.toNat + 10)
  else if 'A' ≤ c ∧ c ≤ 'F' then some (c.toNat - 'A'.toNat + 10)
  else none

def utf8Length (chars : List Char) : Nat :=
  chars.foldr (fun c length => c.utf8Size + length) 0

/-- Four hexadecimal digits.  The text has ended early when fewer than four bytes are left. -/
def hexQuad : Reader Nat := fun chars =>
  if utf8Length (chars.take 4) < 4 then .error .unfinished
  else match chars with
    | a :: b :: c :: d :: rest =>
        match hexValue? a, hexValue? b, hexValue? c, hexValue? d with
        | some a, some b, some c, some d => .ok (((a * 16 + b) * 16 + c) * 16 + d, rest)
        | _, _, _, _ => .error .malformed
    | _ => .error .malformed

def isLeadingSurrogate (unit : Nat) : Bool :=
  0xD800 ≤ unit && unit ≤ 0xDBFF

def isTrailingSurrogate (unit : Nat) : Bool :=
  0xDC00 ≤ unit && unit ≤ 0xDFFF

def numericEscape : Reader Char := fun chars => do
  let (unit, rest) ← hexQuad chars
  if isTrailingSurrogate unit then .error .malformed
  else if isLeadingSurrogate unit then
    match rest with
    | [] | ['\\'] => .error .unfinished
    | '\\' :: 'u' :: rest => do
        let (second, rest) ← hexQuad rest
        if isTrailingSurrogate second then
          return (Char.ofNat ((unit - 0xD800) * 0x400 + (second - 0xDC00) + 0x10000), rest)
        else .error .malformed
    | _ => .error .malformed
  else return (Char.ofNat unit, rest)

/-- The character that an escape stands for, if its letter alone says so. -/
def escapeLetter? : Char → Option Char
  | '"' => some '"'
  | '\\' => some '\\'
  | '/' => some '/'
  | 'b' => some '\x08'
  | 'f' => some '\x0c'
  | 'n' => some '\n'
  | 'r' => some '\r'
  | 't' => some '\t'
  | _ => none

def stringChar : Reader (Option Char)
  | [] => .error .unfinished
  | '"' :: rest => .ok (none, rest)
  | ['\\'] => .error .unfinished
  | '\\' :: 'u' :: rest => do
      let (c, rest) ← numericEscape rest
      return (some c, rest)
  | '\\' :: letter :: rest =>
      match escapeLetter? letter with
      | some c => .ok (some c, rest)
      | none => .error .malformed
  | c :: rest => if c.toNat < 0x20 then .error .malformed else .ok (some c, rest)

def stringChars : Nat → List Char → Reader String
  | 0, _, _ => .error .unfinished
  | fuel + 1, before, chars =>
      match stringChar chars with
      | .error e => .error e
      | .ok (none, rest) => .ok (String.ofList before.reverse, rest)
      | .ok (some c, rest) => stringChars fuel (c :: before) rest

/-- A string behind its opening quotation mark.  Every character takes some of the text. -/
def string : Reader String := fun chars =>
  stringChars (chars.length + 1) [] chars

/-! ## Containers -/

def nextItem (first : Bool) : Reader Bool := fun chars =>
  match skipSpace chars with
  | [] => .error .unfinished
  | ']' :: rest => .ok (false, ']' :: rest)
  | c :: rest =>
      if first then .ok (true, c :: rest)
      else if c = ',' then
        match skipSpace rest with
        | [] => .error .unfinished
        | ']' :: _ => .error .malformed
        | rest => .ok (true, rest)
      else .error .malformed

def closeArray : Reader Unit := fun chars =>
  match skipSpace chars with
  | [] => .error .unfinished
  | ']' :: rest => .ok ((), rest)
  | _ => .error .malformed

def itemsFrom {α : Type} (item : Reader α) : Nat → Bool → List α → Reader (List α)
  | 0, _, _, _ => .error .unfinished
  | fuel + 1, first, before, chars =>
      match nextItem first chars with
      | .error e => .error e
      | .ok (false, rest) => do
          let ((), rest) ← closeArray rest
          return (before.reverse, rest)
      | .ok (true, rest) =>
          match item rest with
          | .error e => .error e
          | .ok (value, rest) => itemsFrom item fuel false (value :: before) rest

def items {α : Type} (item : Reader α) : Reader (List α) := fun chars =>
  itemsFrom item (chars.length + 1) true [] chars

def nextName (first : Bool) : Reader (Option String) := fun chars =>
  match skipSpace chars with
  | [] => .error .unfinished
  | '\x7d' :: rest => .ok (none, '\x7d' :: rest)
  | c :: rest => do
      let named ←
        if first then pure (c :: rest)
        else if c = ',' then
          match skipSpace rest with
          | [] => .error .unfinished
          | rest => pure rest
        else .error .malformed
      match named with
      | '"' :: rest =>
          let (name, rest) ← string rest
          return (some name, rest)
      | _ => .error .malformed

def colon : Reader Unit := fun chars =>
  match skipSpace chars with
  | [] => .error .unfinished
  | ':' :: rest => .ok ((), rest)
  | _ => .error .malformed

def closeObject : Reader Unit := fun chars =>
  match skipSpace chars with
  | [] => .error .unfinished
  | '\x7d' :: rest => .ok ((), rest)
  | _ => .error .malformed

def membersFrom {σ : Type} (member : σ → String → Reader σ) : Nat → Bool → σ → Reader σ
  | 0, _, _, _ => .error .unfinished
  | fuel + 1, first, state, chars =>
      match nextName first chars with
      | .error e => .error e
      | .ok (none, rest) => do
          let ((), rest) ← closeObject rest
          return (state, rest)
      | .ok (some name, rest) =>
          match member state name rest with
          | .error e => .error e
          | .ok (state, rest) => membersFrom member fuel false state rest

/-- The members of an object behind its opening brace.  `member` goes on behind each name. -/
def members {σ : Type} (member : σ → String → Reader σ) (initial : σ) : Reader σ := fun chars =>
  membersFrom member (chars.length + 1) true initial chars

def memberOf {α : Type} (value : Reader α) (before : List (String × α)) (name : String) :
    Reader (List (String × α)) := fun chars => do
  let ((), rest) ← colon chars
  let (value, rest) ← value rest
  return ((name, value) :: before, rest)

/-- Pairs in the order in which they stand; a name may be repeated. -/
def pairs {α : Type} (value : Reader α) : Reader (List (String × α)) := fun chars => do
  let (before, rest) ← members (memberOf value) [] chars
  return (before.reverse, rest)

/-! ## Values -/

def scalar : Reader Json
  | [] => .error .unfinished
  | 'n' :: rest => do
      let ((), rest) ← literal ['u', 'l', 'l'] rest
      return (.null, rest)
  | 't' :: rest => do
      let ((), rest) ← literal ['r', 'u', 'e'] rest
      return (.bool true, rest)
  | 'f' :: rest => do
      let ((), rest) ← literal ['a', 'l', 's', 'e'] rest
      return (.bool false, rest)
  | '"' :: rest => do
      let (text, rest) ← string rest
      return (.string text, rest)
  | '-' :: rest => do
      let (number, rest) ← numeral true rest
      return (.number number, rest)
  | c :: rest =>
      if c.isDigit then do
        let (number, rest) ← numeral false (c :: rest)
        return (.number number, rest)
      else .error .malformed

/-- Any value in which at most `depth` containers are open at one time. -/
def value (depth : Nat) : Reader Json := fun chars =>
  match skipSpace chars with
  | '[' :: rest =>
      match depth with
      | 0 => .error .malformed
      | depth + 1 => do
          let (items, rest) ← items (value depth) rest
          return (.array items, rest)
  | '\x7b' :: rest =>
      match depth with
      | 0 => .error .malformed
      | depth + 1 => do
          let (pairs, rest) ← pairs (value depth) rest
          return (.object (Named.ofPairs pairs), rest)
  | chars => scalar chars

/-- A text that holds what `reader` reads and nothing else. -/
def document {α : Type} (reader : Reader α) (text : String) : Except ReadError α := do
  let (result, rest) ← reader text.toList
  if (skipSpace rest).isEmpty then return result else .error .malformed

end Reader

def Json.parse (text : String) : Except ReadError Json :=
  Reader.document (Reader.value Json.maxDepth) text

end FilterQuery
