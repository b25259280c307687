import ChatSpaces.Entity.Shown

/-!
# Answers

What operations on the tables and calls of the services answer when they succeed.
-/

namespace ChatSpaces

inductive Answer where
  | done
  | flag (value : Bool)
  | count (n : Nat)
  | entity (found : Option Entity)
  | entities (found : List Entity)
deriving DecidableEq, Repr

namespace Answer

def one {α : Type} (f : α → Entity) (a : α) : Answer := .entity (some (f a))

def optional {α : Type} (f : α → Entity) (a : Option α) : Answer := .entity (a.map f)

def many {α : Type} (f : α → Entity) (as : List α) : Answer := .entities (as.map f)

/-- The form in which operators are shown an answer. -/
def document : Answer → Document
  | .done => .null
  | .flag value => .bool value
  | .count n => .whole n
  | .entity found => Document.ofOption Entity.shown found
  | .entities found => .list (found.map Entity.shown)

end Answer

end ChatSpaces
