import ChatSpaces.Document

/-!
# Roles in a space

Members, admins and the owner. Admins and the owner may moderate.
-/

namespace ChatSpaces

inductive Role where
  | member
  | admin
  | owner
deriving DecidableEq, Repr

namespace Role

def name : Role → String
  | .member => "member"
  | .admin => "admin"
  | .owner => "owner"

def rank : Role → Nat
  | .member => 0
  | .admin => 1
  | .owner => 2

instance : LE Role := ⟨fun r s => r.rank ≤ s.rank⟩

instance (r s : Role) : Decidable (r ≤ s) := inferInstanceAs (Decidable (r.rank ≤ s.rank))

def canModerate (r : Role) : Bool := Role.admin ≤ r

def compare (r s : Role) : Ordering := Ord.compare r.rank s.rank

def ofName? (s : String) : Option Role :=
  if s = "member" then some .member
  else if s = "admin" then some .admin
  else if s = "owner" then some .owner
  else none

/-- A stored role that is none of the names counts as member. -/
def ofStored (s : String) : Role := (ofName? s).getD .member

@[simp] theorem ofName?_name (r : Role) : ofName? r.name = some r := by cases r <;> rfl

@[simp] theorem ofStored_name (r : Role) : ofStored r.name = r := by simp [ofStored]

def document (r : Role) : Document := .text r.name

def ofDocument? (d : Document) : Option Role := d.name?.bind ofName?

end Role

end ChatSpaces
