import ChatSpaces.Tables
import ChatSpaces.Visibility

/-!
# Reading the tables

Reads of rows that can be marked deleted take a visibility. It covers the row itself and, for channels
of a space, messages and media, the rows above it as well. The one exception is a channel joined to its
space, which is given as it is stored.
-/

namespace ChatSpaces.Tables

variable (t : Tables) (v : Visibility)

def user? (id : Ident) : Option User := t.users.get? id

def space? (id : Ident) : Option Space := (t.spaces.get? id).filter (fun s => v.admits s.deleted)

def channel? (id : Ident) : Option Channel := (t.channels.get? id).filter (fun c => v.admits c.deleted)

def channelsIn (space : Ident) : List Channel :=
  if (t.space? v space).isSome then
    t.channels.rows.filter (fun c => decide (c.space = space) && v.admits c.deleted)
  else []

/-- An admitted channel with its space, whether the space is deleted or not. -/
def channelInSpace? (id : Ident) : Option ChannelInSpace :=
  (t.channel? v id).bind fun c => (t.spaces.get? c.space).map (⟨c, ·⟩)

def admitsChannel (channel : Ident) : Bool :=
  ((t.channel? v channel).bind fun c => t.space? v c.space).isSome

def admitsMessage (m : Message) : Bool := v.admits m.deleted && t.admitsChannel v m.channel

def message? (id : Ident) : Option Message := (t.messages.get? id).filter (t.admitsMessage v)

/-- Messages of an admitted channel below a cursor, latest first, at most `limit` of them. Without a
cursor the page starts below the greatest identifier; a negative limit is a limit of zero. -/
def messagesIn (channel : Ident) (before : Option Ident) (limit : Int) : List Message :=
  if t.admitsChannel v channel then
    ((t.messages.below (before.getD .greatest)).filter
      (fun m => decide (m.channel = channel) && v.admits m.deleted)).take limit.toNat
  else []

def mediaOf (message : Ident) : List Media :=
  if (t.message? v message).isSome then t.media.rows.filter (fun m => m.message = message) else []

def spaceMember? (space user : Ident) : Option SpaceMember := t.spaceMembers.get? (space, user)

def spaceMembersOf (space : Ident) : List SpaceMember :=
  t.spaceMembers.between (space, .least) (space, .greatest)

def channelMember? (channel user : Ident) : Option ChannelMember := t.channelMembers.get? (channel, user)

def channelMembersOf (channel : Ident) : List ChannelMember :=
  t.channelMembers.between (channel, .least) (channel, .greatest)

def restraint? (scope : Scope) (user : Ident) : Option Restraint := t.restraints.get? (scope, user)

def restraintsIn (scope : Scope) : List Restraint := t.restraints.rows.filter (fun r => r.scope = scope)

end ChatSpaces.Tables
