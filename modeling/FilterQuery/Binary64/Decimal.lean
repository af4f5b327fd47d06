import FilterQuery.Binary64.Basic

/-!
# Decimal text of floating-point numbers

A finite value is written with the fewest decimal digits that read back as the same value, and of
those with the ones nearest to it.  `Layout` says how the digits are laid out.
-/

namespace FilterQuery.Binary64

inductive Tie
  | even
  | up

structure Decimal where
  digits : Nat
  exponent : Int
  deriving DecidableEq, Repr

/-- The power of ten that makes every positive value a number of eighteen digits or more. -/
def decimalScale : Nat := Nat.pow 10 341

/-- Whether `numerator / (scale * decimalScale)` reads back as the value of `units`: it lies
between the midpoints to the two neighbouring values, which belong to an even value. -/
def readsBackAs (units numerator : Nat) : Bool :=
  let step := Nat.pow 2 (spacing units)
  let below := if units = Nat.pow 2 units.log2 ∧ 1 < step then step else 2 * step
  let lo := (4 * units - below) * decimalScale
  let hi := (4 * units + 2 * step) * decimalScale
  if (units / step) % 2 = 0 then lo ≤ 4 * numerator && 4 * numerator ≤ hi
  else lo < 4 * numerator && 4 * numerator < hi

/-- The nearest decimal on the grid of multiples of `10 ^ power` that reads back as `units`. -/
def nearestOnGrid (tie : Tie) (units power : Nat) : Option Nat :=
  let value := units * decimalScale
  let cell := Nat.pow 10 power * scale
  let low := value / cell
  let lowFits := readsBackAs units (low * cell)
  let highFits := readsBackAs units ((low + 1) * cell)
  if lowFits && highFits then
    let toLow := value - low * cell
    let toHigh := (low + 1) * cell - value
    let takeLow := match tie with
      | .even => toLow < toHigh || (toLow == toHigh && low % 2 == 0)
      | .up => toLow < toHigh
    some (if takeLow then low else low + 1)
  else if lowFits then some low
  else if highFits then some (low + 1)
  else none

def stripZeros : Nat → Decimal → Decimal
  | 0, d => d
  | fuel + 1, d =>
      if d.digits ≠ 0 ∧ d.digits % 10 = 0 then
        stripZeros fuel ⟨d.digits / 10, d.exponent + 1⟩
      else d

/-- Coarse grids come first, so that the fewest digits win. -/
def searchGrids (tie : Tie) (units width : Nat) : Nat → Nat → Decimal
  | 0, _ => ⟨units, 0⟩
  | fuel + 1, count =>
      match nearestOnGrid tie units (width - count) with
      | some digits => stripZeros 17 ⟨digits, (width : Int) - count - 341⟩
      | none => searchGrids tie units width fuel (count + 1)

/-- The shortest decimal that reads back as a positive value; seventeen digits always do. -/
def shortest (tie : Tie) (units : Nat) : Decimal :=
  let width := (Nat.toDigits 10 (units * decimalScale / scale)).length
  searchGrids tie units width 17 1

/-- A layout of decimal digits.  With the first digit at the power `n` of ten, positional notation
is used from `lowest` to `highest` (without bound where there is none), elsewhere an exponent is
written.  `wholeSuffix` follows a whole number in positional notation. -/
structure Layout where
  tie : Tie
  lowest : Option Int
  highest : Option Int
  wholeSuffix : String
  infinite : String
  negativeInfinite : String
  notANumber : String

namespace Layout

def positional (layout : Layout) (first : Int) : Bool :=
  layout.lowest.all (· ≤ first) && layout.highest.all (first ≤ ·)

/-- The digits of a positive decimal whose first digit is at the power `first` of ten. -/
def magnitude (layout : Layout) (d : Decimal) : String :=
  let digits := Nat.toDigits 10 d.digits
  let first := d.exponent + digits.length - 1
  if layout.positional first then
    if 0 ≤ d.exponent then
      String.ofList (digits ++ List.replicate d.exponent.toNat '0') ++ layout.wholeSuffix
    else if 0 ≤ first then
      let whole := first.toNat + 1
      String.ofList (digits.take whole) ++ "." ++ String.ofList (digits.drop whole)
    else
      "0." ++ String.ofList (List.replicate (-first - 1).toNat '0' ++ digits)
  else
    let fraction := digits.drop 1
    String.ofList (digits.take 1) ++
      (if fraction.isEmpty then "" else "." ++ String.ofList fraction) ++
      (if first < 0 then "e-" else "e+") ++ toString first.natAbs

def text (layout : Layout) : Binary64 → String
  | .finite negative units =>
      (if negative then "-" else "") ++
        (if units = 0 then "0" ++ layout.wholeSuffix
        else layout.magnitude (shortest layout.tie units))
  | .infinite negative => if negative then layout.negativeInfinite else layout.infinite
  | .notANumber => layout.notANumber

end Layout

end FilterQuery.Binary64
