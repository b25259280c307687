import ChatSpaces.Entity
import ChatSpaces.Failure
import ChatSpaces.Policy

/-!
# The posting gate

Whether a user may post in a channel: the space must be there, the user must be a member of the channel,
and no restraint of a kind that the policy denies may be in force. The first reason that applies is the
one reported; of several restraints, the first in the list.
-/

namespace ChatSpaces

open Time (Instant)

structure PostingContext where
  channel : Channel
  space : Option Space
  isMember : Bool
  restraints : List Restraint
  now : Instant

namespace PostingContext

def firstActive? (c : PostingContext) : Option Restraint :=
  c.restraints.find? (fun r => r.ActiveAt c.now)

def firstDenying? (c : PostingContext) (p : Policy) : Option Restraint :=
  c.restraints.find? (fun r => p.denies r.kind && decide (r.ActiveAt c.now))

def spaceIsLive (c : PostingContext) : Bool := c.space.any (fun s => !s.deleted)

/-- The reason why the user may not post, if there is one. -/
def violation? (c : PostingContext) (p : Policy) : Option Violation :=
  if !c.spaceIsLive then some (.spaceUnavailable c.channel.space)
  else if !c.isMember then some (.notChannelMember c.channel.id)
  else (c.firstDenying? p).map (fun r => .restrained r.scope r.kind r.expiresAt)

theorem violation?_eq_none_iff (c : PostingContext) (p : Policy) :
    c.violation? p = none ↔ c.spaceIsLive = true ∧ c.isMember = true ∧
      ∀ r ∈ c.restraints, p.denies r.kind = true → ¬ r.ActiveAt c.now := by
  unfold violation?
  cases c.spaceIsLive <;> cases c.isMember <;> simp [firstDenying?]

end PostingContext

end ChatSpaces
