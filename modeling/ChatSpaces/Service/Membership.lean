import ChatSpaces.Service.Action

/-!
# Membership

Only members of a space become members of its channels, and whoever leaves a space leaves its channels.
-/

namespace ChatSpaces.Service

open Service.Action

def addSpaceMember (c : Context) (space user : Ident) (role : Role) : Action SpaceMember := do
  openUnit
  let _ ← demandSpace space
  let _ ← demandUser user
  let m : SpaceMember := ⟨space, user, role, c.now⟩
  write (·.insertSpaceMember m)
  commitUnit
  return m

def addChannelMember (c : Context) (channel user : Ident) : Action ChannelMember := do
  openUnit
  let found ← demandChannel channel
  let _ ← demandUser user
  if (← see (·.spaceMember? found.space user)).isNone then
    fail (.violation (.notSpaceMember found.space))
  let m : ChannelMember := ⟨channel, user, c.now⟩
  write (·.insertChannelMember m)
  commitUnit
  return m

/-- Whoever leaves a space leaves its channels too, those that are deleted included. -/
def endMembership (user : Ident) : Scope → Action Bool
  | .space space => do
    let removed ← change (·.removeSpaceMember? space user)
    let _ ← tally (·.removeChannelMembersIn space user)
    return removed
  | .channel channel => change (·.removeChannelMember? channel user)

def removeMember (scope : Scope) (user : Ident) : Action Bool := do
  openUnit
  let removed ← endMembership user scope
  commitUnit
  return removed

def setSpaceRole (space user : Ident) (role : Role) : Action SpaceMember := do
  openUnit
  let _ ← demandSpace space
  match ← revise (·.setRole? space user role) with
  | none => .refuse (.missing "SpaceMember" (space.toText ++ "/" ++ user.toText))
  | some m =>
    commitUnit
    return m

def spaceMembers (space : Ident) : Action (List SpaceMember) := do
  openUnit
  let _ ← demandSpace space
  see (·.spaceMembersOf space)

def channelMembers (channel : Ident) : Action (List ChannelMember) := do
  openUnit
  let _ ← demandChannel channel
  see (·.channelMembersOf channel)

end ChatSpaces.Service
