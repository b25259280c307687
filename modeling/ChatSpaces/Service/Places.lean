import ChatSpaces.Service.Action

/-!
# Spaces and channels

Whoever makes a space owns it and is its first member. Names are changed by admins and the owner only,
and only while nothing above or at the place is deleted.
-/

namespace ChatSpaces.Service

open Service.Action

/-- The identifier is drawn before the owner is looked up. -/
def createSpace (c : Context) (owner : Ident) (r : CreateSpace) : Action Space := do
  check r.problems
  let s : Space := ⟨← freshIdent c, r.name, r.description.getD "", owner, false, c.now, c.now⟩
  openUnit
  let _ ← demandUser owner
  write (·.insertSpace s)
  write (·.insertSpaceMember ⟨s.id, owner, .owner, c.now⟩)
  commitUnit
  return s

def createChannel (c : Context) (space : Ident) (r : CreateChannel) : Action Channel := do
  check r.problems
  openUnit
  let _ ← demandSpace space
  let made : Channel := ⟨← freshIdent c, space, r.name, false, c.now, c.now⟩
  write (·.insertChannel made)
  commitUnit
  return made

def renameSpace (c : Context) (actor space : Ident) (r : RenameSpace) : Action Space := do
  check r.problems
  openUnit
  let s ← demandSpace space
  requireModerator space actor
  let renamed : Space :=
    { s with name := r.name, description := r.description.getD s.description, updatedAt := c.now }
  changeOr (·.updateSpace? renamed) (.spaceNotFound space)
  commitUnit
  return renamed

def renameChannel (c : Context) (actor channel : Ident) (r : RenameChannel) : Action Channel := do
  check r.problems
  openUnit
  let joined ← demandOpenChannel channel
  requireModerator joined.space.id actor
  let renamed : Channel := { joined.channel with name := r.name, updatedAt := c.now }
  changeOr (·.updateChannel? renamed) (.channelNotFound channel)
  commitUnit
  return renamed

inductive ContentKind where
  | space
  | channel
  | message
deriving DecidableEq, Repr

namespace ContentKind

def name : ContentKind → String
  | .space => "space"
  | .channel => "channel"
  | .message => "message"

def ofName? (s : String) : Option ContentKind :=
  if s = "space" then some .space
  else if s = "channel" then some .channel
  else if s = "message" then some .message
  else none

@[simp] theorem ofName?_name (k : ContentKind) : ofName? k.name = some k := by cases k <;> rfl

def notFound : ContentKind → Ident → Failure
  | .space => .spaceNotFound
  | .channel => .channelNotFound
  | .message => .messageNotFound

def delete? (t : Tables) : ContentKind → Ident → Time.Instant → Option Tables
  | .space => t.deleteSpace?
  | .channel => t.deleteChannel?
  | .message => t.deleteMessage?

end ContentKind

/-- Deleting twice succeeds, and nothing below is touched: reads hide it. -/
def deleteContent (c : Context) (kind : ContentKind) (id : Ident) : Action Unit := do
  openUnit
  changeOr (kind.delete? · id c.now) (kind.notFound id)
  commitUnit

end ChatSpaces.Service
