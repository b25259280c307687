/-!
# Binary floating point numbers

The numbers of the 64-bit binary format, given by sign, mantissa and exponent instead of bits, and the
rounding of an exact ratio to the nearest of them, a tie going to the even mantissa.
-/

namespace ChatSpaces.Number

/-- A finite number is `mantissa * 2 ^ exponent`, with `mantissa < 2 ^ 53`. -/
inductive Binary64 where
  | nan
  | infinite (negative : Bool)
  | finite (negative : Bool) (mantissa : Nat) (exponent : Int)
deriving DecidableEq, Repr

namespace Binary64

def minExponent : Int := -1074

def maxExponent : Int := 971

/-- `2 ^ 52`, the least mantissa of the numbers that are not near zero; every mantissa is below twice
this. -/
def leastNormal : Nat := 4503599627370496

def zero (negative : Bool) : Binary64 := .finite negative 0 minExponent

/-- The quotient rounded to the nearest whole number, a half going to the even neighbour. -/
def roundEven (num den : Nat) : Nat :=
  let q := num / den
  let r := num % den
  if 2 * r < den then q else if den < 2 * r then q + 1 else if q % 2 = 0 then q else q + 1

def scaled (num den : Nat) (e : Int) : Nat × Nat :=
  if 0 ≤ e then (num, den * Nat.pow 2 e.toNat) else (num * Nat.pow 2 (-e).toNat, den)

/-- The number nearest to `num / den`; beyond the greatest it is infinite. -/
def ofRatio (negative : Bool) (num den : Nat) : Binary64 :=
  if num = 0 then zero negative
  else
    let guess : Int := (Nat.log2 num : Int) - Nat.log2 den - 52
    let s := scaled num den guess
    let fitted := if s.1 < s.2 * leastNormal then guess - 1 else guess
    let e := max fitted minExponent
    let t := scaled num den e
    let m := roundEven t.1 t.2
    let carried : Nat × Int := if m = 2 * leastNormal then (leastNormal, e + 1) else (m, e)
    if maxExponent < carried.2 then .infinite negative else .finite negative carried.1 carried.2

/-- The number nearest to `digits * 10 ^ power`. Beyond the reach of every finite number the power is
not computed. -/
def ofDecimal (negative : Bool) (digits : Nat) (power : Int) : Binary64 :=
  let width : Int := (Nat.toDigits 10 digits).length
  if digits = 0 ∨ width + power < -330 then zero negative
  else if 330 < width + power then .infinite negative
  else if 0 ≤ power then ofRatio negative (digits * Nat.pow 10 power.toNat) 1
  else ofRatio negative digits (Nat.pow 10 (-power).toNat)

def ofInt (n : Int) : Binary64 := ofDecimal (n < 0) n.natAbs 0

def isZero : Binary64 → Bool
  | .finite _ m _ => m = 0
  | _ => false

/-- The nearest natural number up to `bound`, a half going up; what lies below zero and what is no
number count as zero. -/
def toNatUpTo (bound : Nat) : Binary64 → Nat
  | .nan => 0
  | .infinite negative => if negative then 0 else bound
  | .finite negative m e =>
    if negative then 0
    else if 0 ≤ e then min bound (m * Nat.pow 2 e.toNat)
    else min bound ((2 * m + Nat.pow 2 (-e).toNat) / Nat.pow 2 ((-e).toNat + 1))

end Binary64

end ChatSpaces.Number
