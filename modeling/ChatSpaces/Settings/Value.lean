import ChatSpaces.Document
import ChatSpaces.Number.Text
import ChatSpaces.Number.Word
import ChatSpaces.Text.Case
import ChatSpaces.Text.Decimal

/-!
# Reading single settings

A setting is read as what it is for: numbers and truth values can be read as text, texts and truth values
as numbers, texts and numbers as truth values. Nothing is read from null, lists or records.
-/

namespace ChatSpaces.Settings

open Number
open Text (lower)

/-- Whole numbers beyond 64 bits are kept as floating point numbers. -/
def narrowed : Document → Document
  | .whole n => if Word.Fits n then .whole n else .real (.ofInt n)
  | d => d

def truthWord? (s : String) : Option Bool :=
  let word := lower s
  if word = "true" ∨ word = "on" ∨ word = "yes" then some true
  else if word = "false" ∨ word = "off" ∨ word = "no" then some false
  else none

def text? (d : Document) : Option String :=
  match narrowed d with
  | .text s => some s
  | .bool b => some (if b then "true" else "false")
  | .whole n => some (toString n)
  | .real x => some x.toText
  | _ => none

/-- A number without sign. A floating point number is rounded and kept in range. -/
def word? (d : Document) : Option Nat :=
  match narrowed d with
  | .whole n => if 0 ≤ n then some n.toNat else none
  | .real x => some (x.toNatUpTo Word.max64)
  | .bool b => some b.toNat
  | .text s =>
    match truthWord? s with
    | some b => some b.toNat
    | none => Text.natUpTo? Word.max64 s
  | _ => none

def natUpTo? (bound : Nat) (d : Document) : Option Nat := (word? d).filter (· ≤ bound)

def truth? (d : Document) : Option Bool :=
  match narrowed d with
  | .bool b => some b
  | .whole n => some (decide (n ≠ 0))
  | .real x => some (!x.isZero)
  | .text s => if s = "1" then some true else if s = "0" then some false else truthWord? s
  | _ => none

def texts? (d : Document) : Option (List String) := d.list?.bind (·.mapM text?)

/-- A name out of a set: its text, or the one name of a record with whatever value. -/
def choice? : Document → Option String
  | .text s => some s
  | .record [(s, _)] => some s
  | _ => none

end ChatSpaces.Settings
