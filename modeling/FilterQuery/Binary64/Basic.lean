/-!
# Binary floating-point numbers

The values of the 64-bit binary format, in exact arithmetic.  Every finite value is a whole number
of units of `2 ^ (-1074)`, so the order of finite values is the order of integers, and an operation
computes exactly first and rounds once.
-/

namespace FilterQuery

inductive Binary64
  | finite (negative : Bool) (units : Nat)
  | infinite (negative : Bool)
  | notANumber
  deriving DecidableEq, Repr, Inhabited

namespace Binary64

def scale : Nat := Nat.pow 2 1074

/-- The number of units that no finite value reaches. -/
def limit : Nat := Nat.pow 2 2098

/-- Values of this size are multiples of `2 ^ spacing` units: 53 binary digits are kept. -/
def spacing (units : Nat) : Nat :=
  units.log2 - 52

/-- The whole number nearest to a quotient, of two equally near ones the even one. -/
def roundQuotient (num den : Nat) : Nat :=
  let quotient := num / den
  let remainder := num % den
  if den < 2 * remainder ∨ (2 * remainder = den ∧ quotient % 2 = 1) then quotient + 1
  else quotient

/-- The value nearest to `num / den` units. -/
def ofQuotient (negative : Bool) (num den : Nat) : Binary64 :=
  let step := Nat.pow 2 (spacing (num / den))
  let units := roundQuotient num (den * step) * step
  if units < limit then .finite negative units else .infinite negative

def ofNat (n : Nat) : Binary64 :=
  ofQuotient false (n * scale) 1

/-- The value nearest to `digits * 10 ^ (-places)`. -/
def ofDecimal (digits places : Nat) : Binary64 :=
  ofQuotient false (digits * scale) (Nat.pow 10 places)

def neg : Binary64 → Binary64
  | .finite negative units => .finite (!negative) units
  | .infinite negative => .infinite (!negative)
  | .notANumber => .notANumber

def signed (negative : Bool) (units : Nat) : Int :=
  if negative then -units else units

def add : Binary64 → Binary64 → Binary64
  | .finite s m, .finite t n =>
      let sum := signed s m + signed t n
      ofQuotient (if sum = 0 then s && t else sum < 0) sum.natAbs 1
  | .infinite s, .infinite t => if s = t then .infinite s else .notANumber
  | .infinite s, .finite _ _ => .infinite s
  | .finite _ _, .infinite t => .infinite t
  | .notANumber, _ => .notANumber
  | _, .notANumber => .notANumber

/-- The order of the exact values; what is not a number is comparable with nothing. -/
def le : Binary64 → Binary64 → Bool
  | .finite s m, .finite t n => signed s m ≤ signed t n
  | .infinite s, .infinite t => s || !t
  | .infinite s, .finite _ _ => s
  | .finite _ _, .infinite t => !t
  | .notANumber, _ => false
  | _, .notANumber => false

def mulNonneg : Binary64 → Binary64 → Binary64
  | .finite _ m, .finite _ n => ofQuotient false (m * n) scale
  | .infinite _, .finite _ n => if n = 0 then .notANumber else .infinite false
  | .finite _ m, .infinite _ => if m = 0 then .notANumber else .infinite false
  | .infinite _, .infinite _ => .infinite false
  | _, _ => .notANumber

def divNonneg : Binary64 → Binary64 → Binary64
  | .finite _ m, .finite _ n =>
      if n = 0 then (if m = 0 then .notANumber else .infinite false)
      else ofQuotient false (m * scale) n
  | .infinite _, .finite _ _ => .infinite false
  | .finite _ _, .infinite _ => .finite false 0
  | _, _ => .notANumber

def isZero : Binary64 → Bool
  | .finite _ units => units == 0
  | _ => false

def isInfinite : Binary64 → Bool
  | .infinite _ => true
  | _ => false

theorem le_trans {a b c : Binary64} (hab : a.le b = true) (hbc : b.le c = true) :
    a.le c = true := by
  cases a with
  | notANumber => simp [le] at hab
  | infinite s => cases b <;> cases c <;> simp only [le] at * <;> grind
  | finite s m =>
    cases b with
    | notANumber => simp [le] at hab
    | infinite t => cases c <;> simp_all [le]
    | finite t n =>
      cases c with
      | notANumber => simp [le] at hbc
      | infinite u => simpa [le] using hbc
      | finite u p =>
        simp only [le, decide_eq_true_eq] at *
        omega

end Binary64

end FilterQuery
