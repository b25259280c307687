/-!
# Whole numbers in decimal

A number is one or more ASCII digits; leading zeros are allowed. A signed number may start with one
plus or minus sign, an unsigned one with one plus sign. Nothing else may stand in the text.
-/

namespace ChatSpaces.Text

def digitValue (c : Char) : Nat := c.toNat - '0'.toNat

/-- The number that the digits spell after those already read. -/
def spelled (cs : List Char) (start : Nat) : Nat :=
  cs.foldl (fun n c => 10 * n + digitValue c) start

def digits? (cs : List Char) : Option Nat :=
  if cs ≠ [] ∧ cs.all Char.isDigit then some (spelled cs 0) else none

def signed? (cs : List Char) : Option Int :=
  match cs with
  | '-' :: ds => (digits? ds).map (fun n => -(n : Int))
  | '+' :: ds => (digits? ds).map (fun n => (n : Int))
  | ds => (digits? ds).map (fun n => (n : Int))

def unsigned? (cs : List Char) : Option Nat :=
  match cs with
  | '+' :: ds => digits? ds
  | ds => digits? ds

def natUpTo? (bound : Nat) (s : String) : Option Nat :=
  (unsigned? s.toList).filter (· ≤ bound)

def intWithin? (low high : Int) (s : String) : Option Int :=
  (signed? s.toList).filter (fun n => low ≤ n ∧ n ≤ high)

theorem digits?_eq_some_iff {cs : List Char} {n : Nat} :
    digits? cs = some n ↔ (cs ≠ [] ∧ cs.all Char.isDigit) ∧ spelled cs 0 = n := by
  unfold digits?
  split <;> rename_i h
  · exact ⟨fun e => ⟨h, Option.some.inj e⟩, fun e => congrArg some e.2⟩
  · exact ⟨(nomatch ·), fun e => absurd e.1 h⟩

theorem signed?_plus (ds : List Char) : signed? ('+' :: ds) = (digits? ds).map (fun n => (n : Int)) := rfl

theorem signed?_minus (ds : List Char) : signed? ('-' :: ds) = (digits? ds).map (fun n => -(n : Int)) := rfl

/-- The digits of a number, at least `width` of them. -/
def padded (width n : Nat) : String :=
  let ds := Nat.toDigits 10 n
  String.ofList (List.replicate (width - ds.length) '0' ++ ds)

end ChatSpaces.Text
