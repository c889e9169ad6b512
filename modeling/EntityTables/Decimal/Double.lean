/-!
# Numbers of double precision

A number of double precision is `significand · 2 ^ exponent`, with at most 53 bits in the
significand and an exponent from -1074 to 971.  Everything here is exact arithmetic on natural
numbers: `Double.nearest` rounds a fraction to the nearest such number, a tie to the even
significand, and multiplication and division round the exact result.  Signs are kept apart.
-/

namespace EntityTables.Decimal

/-- The number `significand · 2 ^ exponent`. -/
structure Double where
  significand : Nat
  exponent : Int
deriving DecidableEq, Repr

namespace Double

/-- Zero, with the exponent of the smallest numbers. -/
def zero : Double := ⟨0, -1074⟩

def fraction (d : Double) : Nat × Nat :=
  (d.significand * Nat.pow 2 d.exponent.toNat, Nat.pow 2 (-d.exponent).toNat)

/-- The quotient rounded to the nearest natural number, a tie to the even one. -/
def roundedQuotient (num den : Nat) : Nat :=
  let floor := num / den
  let twice := 2 * (num % den)
  if twice < den then floor
  else if den < twice then floor + 1
  else floor + floor % 2

/-- The exponent at which a positive fraction has a 53-bit quotient, but not less than
-1074. -/
def exponentFor (num den : Nat) : Int :=
  let guess : Int := (Nat.log2 num : Int) - Nat.log2 den - 52
  let reached :=
    den * Nat.pow 2 (52 + guess).toNat ≤ num * Nat.pow 2 (-(52 + guess)).toNat
  max (if reached then guess else guess - 1) (-1074)

/-- The number nearest to the fraction `num / den`, or nothing when it is too large. -/
def nearest (num den : Nat) : Option Double :=
  if num = 0 then
    some zero
  else
    let e := exponentFor num den
    let q := roundedQuotient (num * Nat.pow 2 (-e).toNat) (den * Nat.pow 2 e.toNat)
    let d : Double := if q = Nat.pow 2 53 then ⟨Nat.pow 2 52, e + 1⟩ else ⟨q, e⟩
    if d.exponent ≤ 971 then some d else none

/-- The product, or nothing when it is too large. -/
def mul? (a b : Double) : Option Double :=
  nearest (a.fraction.1 * b.fraction.1) (a.fraction.2 * b.fraction.2)

def div? (a b : Double) : Option Double :=
  nearest (a.fraction.1 * b.fraction.2) (a.fraction.2 * b.fraction.1)

example : nearest 1 1 = some ⟨2 ^ 52, -52⟩ ∧ nearest 3 2 = some ⟨3 * 2 ^ 51, -52⟩ := by
  decide +kernel

example : nearest (2 ^ 53 + 1) 1 = some ⟨2 ^ 52, 1⟩ := by decide +kernel

end Double
end EntityTables.Decimal
