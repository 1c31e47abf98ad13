import QueryTree.Binary64.Basic
/-!
# Shortest decimals — the fewest digits that read back

The decimals that round to a number form an interval around it. Among
them the one written is on the coarsest decimal grid that has a point in
the interval, and of the two points next to the number the nearer one; of
two equally near ones it is the even one.
All comparisons are made in natural numbers, in units of a quarter of
the number's last binary digit, so that the ends of the interval are
whole too.
-/

namespace QueryTree

/-- **A decimal** `digits * 10 ^ exponent`. -/
structure Decimal where
  digits : Nat
  exponent : Int
deriving DecidableEq, Repr

namespace Decimal

/-- Drop the zeros at the end of the digits, at most `fuel` of them. -/
def trimFrom : Nat → Decimal → Decimal
  | 0, d => d
  | fuel + 1, d =>
    if d.digits ≠ 0 ∧ d.digits % 10 = 0 then trimFrom fuel ⟨d.digits / 10, d.exponent + 1⟩ else d

/-- The same decimal without zeros at the end of its digits. -/
def trim (d : Decimal) : Decimal := trimFrom d.digits.log2 d

end Decimal

namespace Binary64

/-- The decimals that round to a positive number: the number itself and
the ends of the interval, in units of `num / den`. -/
structure Rounding where
  value : Nat
  low : Nat
  high : Nat
  /-- Whether the ends round to the number too. -/
  closed : Bool
  num : Nat
  den : Nat

/-- **What rounds to a number.** Below a power of two the numbers lie
half as far apart as above it, and the ends are ties, which go to the
number with the even significand. -/
def rounding (x : Binary64) : Rounding :=
  let m := x.significand
  -- a quarter of the last binary digit
  let unit := x.scale - 2
  let below := if x.fraction.val = 0 ∧ 1 < x.exponent.val then 1 else 2
  { value := 4 * m
    low := 4 * m - below
    high := 4 * m + 2
    closed := m % 2 = 0
    num := if unit < 0 then 1 else Nat.pow 2 unit.toNat
    den := if unit < 0 then Nat.pow 2 (-unit).toNat else 1 }

/-- `10 ^ place` as a quotient. -/
def tenPower (place : Int) : Nat × Nat :=
  if place < 0 then (1, Nat.pow 10 (-place).toNat) else (Nat.pow 10 place.toNat, 1)

/-- The greatest place with `10 ^ place ≤ num / den`, for a positive
quotient. The logarithms leave three candidates. -/
def leadingPlace (num den : Nat) : Int :=
  let guess := (((Nat.log2 num : Int) - Nat.log2 den) * 30103) / 100000
  let reached (place : Int) : Bool :=
    let (p, q) := tenPower place
    p * den ≤ num * q
  if reached (guess + 1) then guess + 1
  else if reached guess then guess
  else guess - 1

/-- The point of the decimal grid at `place` nearest to a number, if it
is one of those that round to it. -/
def Rounding.onGrid? (r : Rounding) (place : Int) : Option Decimal :=
  let (p, q) := tenPower place
  -- The value is `value * width / step` grid points.
  let width := r.num * q
  let step := r.den * p
  let below := r.value * width / step
  let inside (n : Nat) : Bool :=
    if r.closed then r.low * width ≤ n * step && n * step ≤ r.high * width
    else r.low * width < n * step && n * step < r.high * width
  let distanceBelow := r.value * width - below * step
  let distanceAbove := (below + 1) * step - r.value * width
  let preferBelow :=
    distanceBelow < distanceAbove ||
      (distanceBelow = distanceAbove && below % 2 = 0)
  -- zero rounds to no positive number
  match inside below && below ≠ 0, inside (below + 1) with
  | false, false => none
  | true, false => some ⟨below, place⟩
  | false, true => some ⟨below + 1, place⟩
  | true, true => some ⟨if preferBelow then below else below + 1, place⟩

/-- The first of the grids from `place` on that has a hit, trying
`fuel` of them, each ten times as fine as the one before. -/
def Rounding.firstHit (r : Rounding) : Nat → Int → Decimal
  | 0, place => ⟨0, place⟩
  | fuel + 1, place =>
    match r.onGrid? place with
    | some d => d
    | none => r.firstHit fuel (place - 1)

/-- **The shortest decimal that rounds to the magnitude of a number.**
Seventeen digits always suffice. -/
def shortest (x : Binary64) : Decimal :=
  if x.significand = 0 then ⟨0, 0⟩
  else
    let r := x.rounding
    (r.firstHit 17 (leadingPlace (r.value * r.num) r.den)).trim

end Binary64

end QueryTree
