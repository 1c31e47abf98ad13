/-!
# Binary64 — the finite double-precision numbers

A number is a sign, a biased exponent and a fraction, and every such
triple is a finite number: the exponent of the infinities is not among
the values of the type. What a number stands for is a natural multiple
of a power of two, so everything below is exact integer arithmetic.

Rounding goes through the *magnitude code* of a number, its exponent and
fraction read as one natural number. Codes are ordered as the magnitudes
are, so rounding up into the next power of two needs no case of its own.
-/

namespace QueryTree

/-- **A finite double-precision number.** -/
structure Binary64 where
  /-- Whether the sign is a minus; zero has both signs. -/
  negative : Bool
  /-- The biased exponent; 0 is that of the subnormal numbers. -/
  exponent : Fin 2047
  /-- The digits after the binary point. -/
  fraction : Fin (Nat.pow 2 52)
deriving DecidableEq, Repr

namespace Binary64

/-- The magnitude in units of the last binary digit. -/
def significand (x : Binary64) : Nat :=
  if x.exponent.val = 0 then x.fraction.val else Nat.pow 2 52 + x.fraction.val

/-- The power of two that is the last binary digit's worth, so that the
magnitude is `significand * 2 ^ scale`. -/
def scale (x : Binary64) : Int :=
  (max x.exponent.val 1 : Int) - 1075

/-- The number with a given sign and magnitude code, unless the code is
that of an infinity or beyond. -/
def ofCode? (negative : Bool) (code : Nat) : Option Binary64 :=
  if h : code / Nat.pow 2 52 < 2047 then
    some ⟨negative, ⟨code / Nat.pow 2 52, h⟩, ⟨code % Nat.pow 2 52, Nat.mod_lt _ (by decide)⟩⟩
  else none

/-- Zero, of either sign. -/
def zero (negative : Bool) : Binary64 := ⟨negative, 0, 0⟩

/-! ## Rounding -/

/-- The quotient rounded to a natural number, ties to the even one. -/
def divideToEven (num den : Nat) : Nat :=
  let q := num / den
  let r := num % den
  if 2 * r < den then q
  else if den < 2 * r then q + 1
  -- a tie between `q` and `q + 1`
  else q + q % 2

/-- The quotient of `num` and `den` in units of `2 ^ scale`, rounded. -/
def divideAtScale (num den : Nat) (scale : Int) : Nat :=
  if scale < 0 then divideToEven (num * Nat.pow 2 (-scale).toNat) den
  else divideToEven num (den * Nat.pow 2 scale.toNat)

/-- The scale at which a quotient has 53 binary digits before the point,
or the least scale there is. The logarithms leave two candidates, and
the smaller one gives 54 digits exactly where the larger one is right. -/
def scaleOf (num den : Nat) : Int :=
  let guess := (Nat.log2 num : Int) - Nat.log2 den - 52
  let low := guess - 1
  let fits :=
    if low < 0 then num * Nat.pow 2 (-low).toNat < Nat.pow 2 53 * den
    else num < Nat.pow 2 53 * den * Nat.pow 2 low.toNat
  max (-1074) (if fits then low else guess)

/-- **The number nearest to a quotient,** ties to the even neighbour, or
none where that lies beyond the finite numbers. -/
def ofQuotient? (negative : Bool) (num den : Nat) : Option Binary64 :=
  if num = 0 then some (zero negative)
  else
    let scale := scaleOf num den
    -- the first of 53 digits is not stored, and counts one step of the exponent
    ofCode? negative ((scale + 1074).toNat * Nat.pow 2 52 + divideAtScale num den scale)

/-- **The number nearest to `digits * 10 ^ exponent`,** or none where
that lies beyond the finite numbers. Exponents so far out that the
answer is zero or nothing are settled without computing the power. -/
def ofDecimal? (negative : Bool) (digits : Nat) (exponent : Int) : Option Binary64 :=
  if digits = 0 then some (zero negative)
  else if exponent > 400 then none
  else if exponent + Nat.log2 digits + 1 < -400 then some (zero negative)
  else if exponent < 0 then ofQuotient? negative digits (Nat.pow 10 (-exponent).toNat)
  else ofQuotient? negative (digits * Nat.pow 10 exponent.toNat) 1

/-- The number nearest to an integer; beyond the finite numbers, zero. -/
def ofInt (n : Int) : Binary64 :=
  (ofQuotient? (n < 0) n.natAbs 1).getD (zero (n < 0))

end Binary64

end QueryTree
