import ChatSpaces.Service.Action

/-!
# Users

Identity records are made and looked up here; nothing is said about who may log in.
-/

namespace ChatSpaces.Service

open Service.Action

/-- A taken user name is a conflict, found only after the identifier is drawn. -/
def createUser (c : Context) (r : CreateUser) : Action User := do
  check r.problems
  let u : User := ⟨← freshIdent c, r.username, r.displayName.getD "", false, c.now⟩
  openUnit
  write (·.insertUser u)
  commitUnit
  return u

def getUser (id : Ident) : Action User := do
  openUnit
  demandUser id

end ChatSpaces.Service
