import ChatSpaces.Entity
import ChatSpaces.Table

/-!
# The tables of the store

Eight tables. Users, spaces, channels, messages and media are kept by their identifier, members by the
pair of container and user, restraints by scope and user: one restraint at most for a user in a scope.
-/

namespace ChatSpaces

structure Tables where
  users : Table Ident User
  spaces : Table Ident Space
  channels : Table Ident Channel
  spaceMembers : Table (Ident × Ident) SpaceMember
  channelMembers : Table (Ident × Ident) ChannelMember
  messages : Table Ident Message
  media : Table Ident Media
  restraints : Table (Scope × Ident) Restraint
deriving DecidableEq

namespace Tables

def empty : Tables := ⟨∅, ∅, ∅, ∅, ∅, ∅, ∅, ∅⟩

instance : EmptyCollection Tables := ⟨empty⟩

instance : Inhabited Tables := ⟨∅⟩

end Tables

end ChatSpaces
