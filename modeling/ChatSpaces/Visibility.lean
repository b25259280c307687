/-!
# Visibility

Rows are marked deleted instead of removed. A read either passes over marked rows or takes them all.
-/

namespace ChatSpaces

inductive Visibility where
  | live
  | all
deriving DecidableEq, Repr

namespace Visibility

def includesDeleted : Visibility → Bool
  | .live => false
  | .all => true

/-- Whether a read takes a row with this mark. -/
def admits (v : Visibility) (deleted : Bool) : Bool := v.includesDeleted || !deleted

@[simp] theorem admits_all (deleted : Bool) : Visibility.all.admits deleted = true := rfl

@[simp] theorem admits_live (deleted : Bool) : Visibility.live.admits deleted = !deleted := rfl

end Visibility

end ChatSpaces
