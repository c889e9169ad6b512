import EntityTables.Decimal.Double

/-!
# The shortest decimal of a number

A number of double precision is written with the fewest digits that still read back as the
number, and among those with the digits nearest to it.  The digits are found as the coarsest
decimal grid that has a point in the interval of the reals that round to the number.
-/

namespace EntityTables.Decimal

/-- The number `digits · 10 ^ exponent`. -/
structure Scientific where
  digits : Nat
  exponent : Int
deriving DecidableEq, Repr

namespace Double

/-- Four times the lower end of the interval that rounds to the number, in units of its last
place: half a place below, or a quarter where the numbers below lie twice as dense. -/
def lowerEnd (d : Double) : Nat :=
  if d.significand = Nat.pow 2 52 ∧ -1074 < d.exponent then 4 * d.significand - 1
  else 4 * d.significand - 2

/-- Four times the upper end of that interval, half a place above the number. -/
def upperEnd (d : Double) : Nat :=
  4 * d.significand + 2

/-- The point of the grid of step `10 ^ k` that is nearest to the number, when it lies in the
interval; the ends belong to the interval for an even significand. -/
def gridPoint? (d : Double) (k : Int) : Option Nat :=
  let step := Nat.pow 10 k.toNat * Nat.pow 2 (2 - d.exponent).toNat
  let place := Nat.pow 10 (-k).toNat * Nat.pow 2 (d.exponent - 2).toNat
  let even := d.significand % 2 = 0
  let inside (point : Nat) : Bool :=
    if even then d.lowerEnd * place ≤ point * step ∧ point * step ≤ d.upperEnd * place
    else d.lowerEnd * place < point * step ∧ point * step < d.upperEnd * place
  let floor := 4 * d.significand * place / step
  let nearer := roundedQuotient (4 * d.significand * place) step
  if inside nearer then some nearer
  else if inside floor then some floor
  else if inside (floor + 1) then some (floor + 1)
  else none

/-- The exponents of all grids that can matter, the coarsest first. -/
def gridExponents : List Int :=
  (List.range 634).map fun (i : Nat) => 309 - (i : Int)

/-- The shortest decimal that reads back as the number. -/
def shortest (d : Double) : Scientific :=
  if d.significand = 0 then
    ⟨0, 0⟩
  else
    (gridExponents.findSome? fun k => (d.gridPoint? k).map (⟨·, k⟩)).getD ⟨0, 0⟩

end Double

/-- How a decimal is laid out as text. -/
structure Layout where
  /-- The least power of ten whose digit is written in place. -/
  leastInPlace : Int
  /-- The greatest power of ten whose digit is written in place. -/
  greatestInPlace : Int
  /-- What stands between the digits and the power of ten. -/
  exponentMark : List Char
  /-- What stands before a power of ten that is not negative. -/
  exponentPlus : List Char

/-- The text of `digits · 10 ^ exponent`: in place with a point and at least one digit on each
side of it, or as a leading digit, the further digits behind a point, and the power of ten. -/
def Layout.text (layout : Layout) (number : Scientific) : List Char :=
  let digits := Nat.toDigits 10 number.digits
  let power : Int := number.exponent + digits.length - 1
  if layout.leastInPlace ≤ power ∧ power ≤ layout.greatestInPlace then
    if power < 0 then
      ['0', '.'] ++ List.replicate (-power - 1).toNat '0' ++ digits
    else
      let whole := (power + 1).toNat
      let fraction := digits.drop whole
      digits.take whole ++ List.replicate (whole - digits.length) '0' ++
        '.' :: (if fraction.isEmpty then ['0'] else fraction)
  else
    digits.take 1 ++ (if digits.length = 1 then [] else '.' :: digits.drop 1) ++
      layout.exponentMark ++ (if power < 0 then ['-'] else layout.exponentPlus) ++
      Nat.toDigits 10 power.natAbs

example : (Double.nearest 3 10).map Double.shortest = some ⟨3, -1⟩ := by decide +kernel

end EntityTables.Decimal
