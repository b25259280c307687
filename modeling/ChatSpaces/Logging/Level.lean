import ChatSpaces.Number.Word
import ChatSpaces.Text.Case
import ChatSpaces.Text.Decimal

/-!
# Log levels

From errors, which matter most, to traces. A level is written as its name or as its number.
-/

namespace ChatSpaces.Logging

inductive Level where
  | error
  | warn
  | info
  | debug
  | trace
deriving DecidableEq, Repr

namespace Level

def name : Level → String
  | .error => "ERROR"
  | .warn => "WARN"
  | .info => "INFO"
  | .debug => "DEBUG"
  | .trace => "TRACE"

/-- One for errors up to five for traces. -/
def rank : Level → Nat
  | .error => 1
  | .warn => 2
  | .info => 3
  | .debug => 4
  | .trace => 5

instance : LE Level := ⟨fun l m => l.rank ≤ m.rank⟩

instance (l m : Level) : Decidable (l ≤ m) := inferInstanceAs (Decidable (l.rank ≤ m.rank))

def all : List Level := [.error, .warn, .info, .debug, .trace]

theorem mem_all (l : Level) : l ∈ all := by cases l <;> decide

def ofRank? (n : Nat) : Option Level := all.find? (fun l => l.rank = n)

def ofName? (s : String) : Option Level := all.find? (fun l => decide (Text.SameWord l.name s))

def ofText? (s : String) : Option Level :=
  match (Text.natUpTo? Number.Word.max64 s).bind ofRank? with
  | some l => some l
  | none => ofName? s

@[simp] theorem ofRank?_rank (l : Level) : ofRank? l.rank = some l := by cases l <;> decide

@[simp] theorem ofName?_name (l : Level) : ofName? l.name = some l := by cases l <;> decide

end Level

end ChatSpaces.Logging
