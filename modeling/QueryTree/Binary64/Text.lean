import QueryTree.Binary64.Shortest
/-!
# Number text — how floating-point numbers are written

A number is written with its shortest digits. What is left to a format
is which magnitudes are written in plain notation and which in
scientific notation. Plain notation always has a digit after the point.
-/

namespace QueryTree

/-- **The decision of a number format:** the powers of ten of the leading
digit that are written in plain notation, from `firstPlain` to
`lastPlain`. -/
structure NumberLayout where
  firstPlain : Int
  lastPlain : Int
deriving DecidableEq, Repr

namespace NumberLayout

/-- Numbers in JSON text: plain from `0.00001` up to sixteen digits
before the point. -/
def json : NumberLayout := ⟨-5, 15⟩

/-- Whether a decimal is written in plain notation. Zero is. -/
def isPlain (layout : NumberLayout) (d : Decimal) (leading : Int) : Bool :=
  d.digits = 0 || (layout.firstPlain ≤ leading && leading ≤ layout.lastPlain)

end NumberLayout

namespace Decimal

/-- Plain notation, with at least one digit on either side of the point. -/
def plainText (d : Decimal) : String :=
  let digits := d.digits.repr
  if 0 ≤ d.exponent then
    digits ++ "".pushn '0' d.exponent.toNat ++ ".0"
  else
    let places := (-d.exponent).toNat
    -- zeros in front, so that a digit is left before the point
    let padded := ("".pushn '0' (places + 1 - digits.length) ++ digits).toList
    let whole := padded.length - places
    String.ofList (padded.take whole) ++ "." ++ String.ofList (padded.drop whole)

/-- The power of ten of the leading digit. -/
def leading (d : Decimal) : Int := d.exponent + d.digits.repr.length - 1

/-- Scientific notation: one digit before the point, a point only where
digits follow it, and always a sign in the exponent. -/
def scientificText (d : Decimal) : String :=
  let mantissa :=
    match d.digits.repr.toList with
    | [] => ""
    | [c] => c.toString
    | c :: rest => c.toString ++ "." ++ String.ofList rest
  let sign := if d.leading < 0 then "-" else "+"
  mantissa ++ "e" ++ sign ++ d.leading.natAbs.repr

end Decimal

/-- **The text of a number in a layout.** Negative zero keeps its sign. -/
def Binary64.text (layout : NumberLayout) (x : Binary64) : String :=
  let d := x.shortest
  (if x.negative then "-" else "") ++
    if layout.isPlain d d.leading then d.plainText else d.scientificText

end QueryTree
