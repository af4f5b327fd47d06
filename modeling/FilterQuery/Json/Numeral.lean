import FilterQuery.Json.Error

/-!
# Reading numbers

The digits of a number with a point or an exponent, or of one too large for a whole number, are
collected while they fit in 64 bits and the rest of their section is dropped.  The resulting value
is scaled by one rounded multiplication or division by a power of ten at a time.
-/

namespace FilterQuery

/-- A reader consumes the beginning of a text. -/
abbrev Reader (α : Type) := List Char → Except ReadError (α × List Char)

/-- Steps that depend on one another succeed if each of them does. -/
theorem bind_eq_ok_iff {ε α β : Type} {first : Except ε α} {next : α → Except ε β} {result : β} :
    (first >>= next) = .ok result ↔ ∃ value, first = .ok value ∧ next value = .ok result := by
  cases first <;> simp [bind, Except.bind]

namespace Reader

def wordLimit : Nat := Nat.pow 2 64

def digitValue (c : Char) : Nat :=
  c.toNat - '0'.toNat

def decimalValue (digits : List Char) : Nat :=
  digits.foldl (fun n c => 10 * n + digitValue c) 0

/-- Appends digits as long as the number stays below the limit, and counts those appended. -/
def appendDigits (number appended : Nat) : List Char → Nat × Nat
  | [] => (number, appended)
  | c :: rest =>
      let next := 10 * number + digitValue c
      if next < wordLimit then appendDigits next (appended + 1) rest else (number, appended)

/-- A value times a power of ten, in steps of at most 308 places; there is none past the largest
finite value.  Three steps down bring every 64-bit number to zero. -/
def scaleByTen : Nat → Binary64 → Int → Option Binary64
  | 0, value, _ => some value
  | steps + 1, value, exponent =>
      if exponent.natAbs ≤ 308 then
        let power := Binary64.ofNat (Nat.pow 10 exponent.natAbs)
        let scaled :=
          if 0 ≤ exponent then value.mulNonneg power else value.divNonneg power
        if scaled.isInfinite then none else some scaled
      else if value.isZero then some value
      else if 0 ≤ exponent then none
      else scaleByTen steps (value.divNonneg (Binary64.ofNat (Nat.pow 10 308))) (exponent + 308)

def realOfParts (negative : Bool) (significand : Nat) (exponent : Int) :
    Except ReadError Number :=
  match scaleByTen 4 (Binary64.ofNat significand) exponent with
  | some value => .ok (.real (if negative then value.neg else value))
  | none => .error .malformed

/-- The largest exponent that is told from a larger one. -/
def exponentLimit : Nat := Nat.pow 2 31 - 1

def exponentDigits (negative : Bool) (significand : Nat) (exponent : Int) (minus : Bool) :
    Reader Number := fun chars =>
  match chars.takeWhile Char.isDigit, chars.dropWhile Char.isDigit with
  | [], [] => .error .unfinished
  | [], _ => .error .malformed
  | digits, rest =>
      let written := decimalValue digits
      if exponentLimit < written then
        if significand ≠ 0 ∧ minus = false then .error .malformed
        else .ok (.real (.finite negative 0), rest)
      else do
        let total := if minus then exponent - written else exponent + written
        return (← realOfParts negative significand total, rest)

/-- What follows the digits of a number that is not whole: an exponent or nothing. -/
def realTail (negative : Bool) (significand : Nat) (exponent : Int) : Reader Number
  | 'e' :: '+' :: rest | 'E' :: '+' :: rest =>
      exponentDigits negative significand exponent false rest
  | 'e' :: '-' :: rest | 'E' :: '-' :: rest =>
      exponentDigits negative significand exponent true rest
  | 'e' :: rest | 'E' :: rest => exponentDigits negative significand exponent false rest
  | rest => do return (← realOfParts negative significand exponent, rest)

def fraction (negative : Bool) (significand : Nat) (exponent : Int) : Reader Number := fun chars =>
  match chars.takeWhile Char.isDigit, chars.dropWhile Char.isDigit with
  | [], [] => .error .unfinished
  | [], _ => .error .malformed
  | digits, rest =>
      let (all, appended) := appendDigits significand 0 digits
      realTail negative all (exponent - appended) rest

def wholeNumber (negative : Bool) (value : Nat) : Number :=
  if negative = false then .integer value
  else if 0 < value ∧ value ≤ Nat.pow 2 63 then .integer (-value)
  else .real (Binary64.ofNat value).neg

def numeral (negative : Bool) : Reader Number := fun chars =>
  match chars.takeWhile Char.isDigit, chars.dropWhile Char.isDigit with
  | [], [] => .error .unfinished
  | [], _ => .error .malformed
  | '0' :: _ :: _, _ => .error .malformed
  | digits, rest =>
      let (significand, appended) := appendDigits 0 0 digits
      let exponent : Int := digits.length - appended
      match rest with
      | '.' :: rest => fraction negative significand exponent rest
      | 'e' :: _ | 'E' :: _ => realTail negative significand exponent rest
      | _ =>
          if exponent = 0 then .ok (wholeNumber negative significand, rest)
          else realTail negative significand exponent rest

end Reader

end FilterQuery
