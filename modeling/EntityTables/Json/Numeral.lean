import EntityTables.Decimal.Double

/-!
# Numbers as they are written in JSON

A `Numeral` keeps the digits of a number as they stand in the text.  Its value is a whole
number when it is written as one and fits into 64 bits, else a number of double precision.
-/

namespace EntityTables.Json

open Decimal (Double)

structure Exponent where
  negative : Bool
  digits : List Char
deriving DecidableEq, Repr

/-- A number as written: `-` or nothing, digits, the digits behind a point, a power of ten. -/
structure Numeral where
  negative : Bool
  whole : List Char
  fraction : List Char := []
  exponent : Option Exponent := none
deriving DecidableEq, Repr

inductive Number where
  | integer (value : Int)
  | float (negative : Bool) (magnitude : Double)
deriving DecidableEq, Repr

/-- The digits that still fit into 64 bits behind `start`, and how many are left over. -/
def fittingDigits (start : Nat) : List Char → Nat × Nat
  | [] => (start, 0)
  | c :: rest =>
    let next := Nat.ofDigitChars 10 [c] start
    if next < UInt64.size then fittingDigits next rest else (start, rest.length + 1)

def powerOfTen? (n : Nat) : Option Double :=
  Double.nearest (Nat.pow 10 n) 1

/-- The number multiplied by a power of ten, in steps of at most `10 ^ 308`, each rounded;
nothing when it becomes too large. -/
def scaled? (d : Double) (power : Int) : Option Double :=
  if power.natAbs ≤ 308 then do
    let factor ← powerOfTen? power.natAbs
    if 0 ≤ power then d.mul? factor else d.div? factor
  else if d.significand = 0 then
    some d
  else if h : 0 ≤ power then
    none
  else do
    let factor ← powerOfTen? 308
    scaled? (← d.div? factor) (power + 308)
termination_by power.natAbs
decreasing_by omega

namespace Numeral

def power (n : Numeral) : Int :=
  match n.exponent with
  | none => 0
  | some e =>
    let size : Int := Nat.ofDigitChars 10 e.digits 0
    if e.negative then -size else size

def isWhole (n : Numeral) : Bool :=
  n.fraction.isEmpty && n.exponent.isNone

/-- The magnitude in double precision.  Digits beyond 64 bits are not looked at: those before
the point count as powers of ten, those behind it not at all. -/
def magnitude? (n : Numeral) : Option Double :=
  let (whole, wholeLeft) := fittingDigits 0 n.whole
  let (digits, fractionLeft) := fittingDigits whole n.fraction
  let power := wholeLeft + n.power - (n.fraction.length - fractionLeft : Nat)
  (Double.nearest digits 1).bind (scaled? · power)

/-- The value; nothing when the number is too large for double precision.  Minus zero and
whole numbers outside of the signed and unsigned 64-bit numbers have double precision. -/
def value? (n : Numeral) : Option Number :=
  let size := Nat.ofDigitChars 10 n.whole 0
  if n.isWhole ∧ !n.negative ∧ size < UInt64.size then
    some (.integer size)
  else if n.isWhole ∧ n.negative ∧ 0 < size ∧ size ≤ UInt64.size / 2 then
    some (.integer (-size))
  else
    n.magnitude?.map (.float n.negative)

end Numeral
end EntityTables.Json
