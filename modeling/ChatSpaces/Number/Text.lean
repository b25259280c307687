import ChatSpaces.Number.Binary64
import ChatSpaces.Text.Case
import ChatSpaces.Text.Decimal

/-!
# The text of a floating point number

Reading accepts a sign, then `inf`, `infinity` or `nan` in any case, or digits with at most one point
and at most one exponent; a digit must stand on one side of the point.

Writing gives the fewest digits that read back, the nearest such digits to the number, and never an
exponent: `1` and not `1.0`, `0.00001` and not `1e-5`.
-/

namespace ChatSpaces.Number.Binary64

open ChatSpaces.Text

/-- A run of digits before a point, a run after it, and the power of ten. -/
structure Parts where
  whole : List Char
  fraction : List Char
  power : Int

def exponent? (cs : List Char) : Option Int :=
  match cs with
  | [] => some 0
  | 'e' :: ds => signed? ds
  | 'E' :: ds => signed? ds
  | _ => none

def parts? (cs : List Char) : Option Parts :=
  let whole := cs.takeWhile Char.isDigit
  match cs.dropWhile Char.isDigit with
  | '.' :: rest =>
    let fraction := rest.takeWhile Char.isDigit
    if whole = [] ∧ fraction = [] then none
    else (exponent? (rest.dropWhile Char.isDigit)).map (⟨whole, fraction, ·⟩)
  | rest => if whole = [] then none else (exponent? rest).map (⟨whole, [], ·⟩)

def ofParts (negative : Bool) (p : Parts) : Binary64 :=
  ofDecimal negative (spelled (p.whole ++ p.fraction) 0) (p.power - p.fraction.length)

def unsignedText? (negative : Bool) (cs : List Char) : Option Binary64 :=
  let word := lower (String.ofList cs)
  if word = "inf" ∨ word = "infinity" then some (.infinite negative)
  else if word = "nan" then some .nan
  else (parts? cs).map (ofParts negative)

def ofText? (s : String) : Option Binary64 :=
  match s.toList with
  | '-' :: cs => unsignedText? true cs
  | '+' :: cs => unsignedText? false cs
  | cs => unsignedText? false cs

/-- A ratio of natural numbers, to compare points of the decimal and the binary grid exactly. -/
structure Ratio where
  num : Nat
  den : Nat

def power10 (k : Int) : Ratio := if 0 ≤ k then ⟨Nat.pow 10 k.toNat, 1⟩ else ⟨1, Nat.pow 10 (-k).toNat⟩

def power2 (k : Int) : Ratio := if 0 ≤ k then ⟨Nat.pow 2 k.toNat, 1⟩ else ⟨1, Nat.pow 2 (-k).toNat⟩

/-- The reals that round to `mantissa * 2 ^ exponent`, in quarters of the last place: the number
itself, the lower end and the upper end. The ends belong to it when the mantissa is even. -/
structure Interval where
  middle : Nat
  low : Nat
  high : Nat
  closed : Bool
  unit : Ratio

def interval (mantissa : Nat) (exponent : Int) : Interval where
  middle := 4 * mantissa
  low := if mantissa = leastNormal ∧ minExponent < exponent then 4 * mantissa - 1 else 4 * mantissa - 2
  high := 4 * mantissa + 2
  closed := mantissa % 2 = 0
  unit := power2 (exponent - 2)

def Interval.holds (i : Interval) (g : Ratio) (q : Nat) : Bool :=
  let point := q * g.num * i.unit.den
  let low := i.low * i.unit.num * g.den
  let high := i.high * i.unit.num * g.den
  0 < q && if i.closed then low ≤ point && point ≤ high else low < point && point < high

/-- The neighbour of the number on the grid that rounds to it; of two the nearer, of two equally near
the upper. -/
def Interval.onGrid? (i : Interval) (g : Ratio) : Option Nat :=
  let exact := i.middle * i.unit.num * g.den
  let step := g.num * i.unit.den
  let below := exact / step
  let above := below + 1
  match i.holds g below, i.holds g above with
  | true, true => some (if exact - below * step < above * step - exact then below else above)
  | true, false => some below
  | false, true => some above
  | false, false => none

/-- The first of the grids `10 ^ k`, `10 ^ (k - 1)`, … with a point in the interval. -/
def coarsest (i : Interval) : Nat → Int → Nat × Int
  | 0, k => (0, k)
  | fuel + 1, k =>
    match i.onGrid? (power10 k) with
    | some q => (q, k)
    | none => coarsest i fuel (k - 1)

/-- The fewest digits that read back as `mantissa * 2 ^ exponent`, with their power of ten. -/
def shortest (mantissa : Nat) (exponent : Int) : Nat × Int :=
  let top : Int := ((Nat.log2 mantissa : Int) + exponent) * 30103 / 100000 + 2
  coarsest (interval mantissa exponent) 25 top

def positional (digits : Nat) (power : Int) : String :=
  let ds := Nat.toDigits 10 digits
  if 0 ≤ power then String.ofList (ds ++ List.replicate power.toNat '0')
  else
    let places := (-power).toNat
    let padded := List.replicate (places + 1 - ds.length) '0' ++ ds
    String.ofList (padded.take (padded.length - places) ++ '.' :: padded.drop (padded.length - places))

def toText : Binary64 → String
  | .nan => "NaN"
  | .infinite negative => if negative then "-inf" else "inf"
  | .finite negative m e =>
    let sign := if negative then "-" else ""
    if m = 0 then sign ++ "0"
    else
      let s := shortest m e
      sign ++ positional s.1 s.2

end ChatSpaces.Number.Binary64
