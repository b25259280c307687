import ChatSpaces.Document
import ChatSpaces.Number.Word
import ChatSpaces.Text.Decimal

/-!
# Identifiers

Everything that is stored has a signed 64-bit identifier. Its upper bits count milliseconds from the
start of 2024, the ten bits below them name the worker that made it, and the last twelve number the
identifiers of one millisecond.
-/

namespace ChatSpaces

open Number

structure Ident where
  word : Int64
deriving DecidableEq, Repr

namespace Ident

/-- The identifier as a number between `-2 ^ 63` and `2 ^ 63 - 1`. -/
def toInt (i : Ident) : Int := i.word.toInt

def ofInt (n : Int) : Ident := ⟨Int64.ofInt n⟩

def greatest : Ident := ⟨Int64.maxValue⟩

def least : Ident := ⟨Int64.minValue⟩

theorem toInt_inj {i j : Ident} : i.toInt = j.toInt ↔ i = j := by
  obtain ⟨a⟩ := i
  obtain ⟨b⟩ := j
  simp only [toInt, mk.injEq]
  exact Int64.toInt_inj

theorem le_toInt (i : Ident) : -9223372036854775808 ≤ i.toInt := Int64.le_toInt i.word

theorem toInt_le (i : Ident) : i.toInt ≤ 9223372036854775807 := Int64.toInt_le i.word

theorem toInt_ofInt {n : Int} (h : Word.Fits n) : (ofInt n).toInt = n := by
  obtain ⟨low, high⟩ := h
  simp only [Word.minSigned, Word.maxSigned] at low high
  simp only [toInt, ofInt, Int64.toInt_ofInt, Int64.size]
  exact Int.bmod_eq_of_le (by omega) (by omega)

@[simp] theorem ofInt_toInt (i : Ident) : ofInt i.toInt = i :=
  toInt_inj.mp (toInt_ofInt ⟨i.le_toInt, i.toInt_le⟩)

instance : LT Ident := ⟨fun i j => i.toInt < j.toInt⟩

instance : LE Ident := ⟨fun i j => i.toInt ≤ j.toInt⟩

theorem lt_greatest_iff {i : Ident} : i < greatest ↔ i ≠ greatest := by
  have bound := i.toInt_le
  have top : greatest.toInt = 9223372036854775807 := rfl
  change i.toInt < greatest.toInt ↔ _
  rw [ne_eq, ← toInt_inj]
  omega

instance (i j : Ident) : Decidable (i < j) := inferInstanceAs (Decidable (i.toInt < j.toInt))

instance (i j : Ident) : Decidable (i ≤ j) := inferInstanceAs (Decidable (i.toInt ≤ j.toInt))

def increasing : List Ident → Bool
  | i :: j :: rest => decide (i < j) && increasing (j :: rest)
  | _ => true

/-- Milliseconds from 1970 to the start of 2024, where identifiers begin to count. -/
def epoch : Int := 1704067200000

/-- The time in the identifier, in milliseconds from 1970. -/
def timestamp (i : Ident) : Int := i.toInt / 4194304 + epoch

def workerId (i : Ident) : Nat := (i.toInt / 4096 % 1024).toNat

def toText (i : Ident) : String := toString i.toInt

instance : ToString Ident := ⟨toText⟩

def ofText? (s : String) : Option Ident :=
  (Text.intWithin? Word.minSigned Word.maxSigned s).map ofInt

def textRefusal : String := "invalid snowflake format"

/-- Identifiers are written as text, so that readers without 64-bit numbers keep every digit. -/
def document (i : Ident) : Document := .text i.toText

def ofDocument? : Document → Option Ident
  | .whole n => if Word.Fits n then some (ofInt n) else none
  | .text s => ofText? s
  | _ => none

end Ident

end ChatSpaces
