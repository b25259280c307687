import ChatSpaces.Number.Binary64

/-!
# Documents

Trees of values: what requests arrive as, what settings are layered in and what entities are shown as.
A whole number and a floating point number are different values, however they compare.
-/

namespace ChatSpaces

open Number (Binary64)

inductive Document where
  | null
  | bool (value : Bool)
  | whole (value : Int)
  | real (value : Binary64)
  | text (value : String)
  | list (items : List Document)
  | record (fields : List (String × Document))

namespace Document

/-- The value of the last field of that name. -/
def lookup (name : String) (fields : List (String × Document)) : Option Document :=
  (fields.reverse.find? (fun f => f.1 = name)).map Prod.snd

/-- A field of a record; other documents have none. -/
def field? (name : String) : Document → Option Document
  | .record fields => lookup name fields
  | _ => none

def present? (name : String) (d : Document) : Option Document :=
  match d.field? name with
  | some .null => none
  | found => found

def bool? : Document → Option Bool
  | .bool b => some b
  | _ => none

def text? : Document → Option String
  | .text s => some s
  | _ => none

def list? : Document → Option (List Document)
  | .list items => some items
  | _ => none

def intWithin? (low high : Int) : Document → Option Int
  | .whole n => if low ≤ n ∧ n ≤ high then some n else none
  | _ => none

/-- The named values of a record, or the items of a list in the order of the names. A list may leave
out what stands after the first `required` names, and nothing else. -/
def fields? (names : List String) (required : Nat) : Document → Option (List (Option Document))
  | .record fields => some (names.map (lookup · fields))
  | .list items =>
    if required ≤ items.length ∧ items.length ≤ names.length then
      some (items.map some ++ List.replicate (names.length - items.length) none)
    else none
  | _ => none

/-- A name out of a fixed set: its text, or a record of that one name with null. -/
def name? : Document → Option String
  | .text s => some s
  | .record [(s, .null)] => some s
  | _ => none

/-- Null is an absent value; any other must be readable. -/
def optional? {α : Type} (read : Document → Option α) : Option Document → Option (Option α)
  | none => some none
  | some .null => some none
  | some d => (read d).map some

def texts (ss : List String) : Document := .list (ss.map .text)

def ofOption {α : Type} (write : α → Document) : Option α → Document
  | none => .null
  | some a => write a

end Document

end ChatSpaces
