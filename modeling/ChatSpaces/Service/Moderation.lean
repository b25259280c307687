import ChatSpaces.Service.Action

/-!
# Moderation

Restraints are recorded, revoked and looked up. One that has run out is ignored by every look-up until it
is purged.
-/

namespace ChatSpaces.Service

open Service.Action
open Time (Instant)

def demandScope : Scope → Action Unit
  | .space id => do let _ ← demandSpace id
  | .channel id => do let _ ← demandChannel id

/-- Takes the place of an earlier restraint on the user in the scope. -/
def restrain (c : Context) (scope : Scope) (user issuedBy : Ident) (r : Restrain) :
    Action Restraint := do
  check r.problems
  openUnit
  demandScope scope
  let _ ← demandUser user
  let made : Restraint := ⟨scope, user, r.kind, r.expiresAt, issuedBy, c.now, r.reason⟩
  write (·.putRestraint made)
  commitUnit
  return made

/-- Answers whether there was a restraint, in force or not. -/
def revokeRestraint (scope : Scope) (user : Ident) : Action Bool := do
  openUnit
  let removed ← change (·.removeRestraint? scope user)
  commitUnit
  return removed

def activeRestraint (scope : Scope) (user : Ident) (time : Instant) : Action (Option Restraint) := do
  openUnit
  see fun t => (t.restraint? scope user).filter (fun r => r.ActiveAt time)

def isRestrained (scope : Scope) (user : Ident) (time : Instant) : Action Bool := do
  return (← activeRestraint scope user time).isSome

def restraintsInScope (scope : Scope) (time : Instant) : Action (List Restraint) := do
  openUnit
  see fun t => (t.restraintsIn scope).filter (fun r => r.ActiveAt time)

def purgeExpired (c : Context) : Action Nat := do
  openUnit
  let dropped ← tally (·.removeExpired c.now)
  commitUnit
  return dropped

end ChatSpaces.Service
