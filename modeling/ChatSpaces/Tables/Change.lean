import ChatSpaces.Failure
import ChatSpaces.Tables

/-!
# Changing the tables

An insertion first asks for the rows that the new row names, then for a free key. A change of a row
that may be missing gives `none` where nothing is changed. Rows marked deleted are never changed again,
and the mark is never taken off.
-/

namespace ChatSpaces

open Time (Instant)

namespace Table

variable {κ α : Type} [Key κ] [Deletable α]

/-- Changes a row that is not deleted. -/
def amend? (t : Table κ α) (k : κ) (change : α → α) : Option (Table κ α) :=
  match t.get? k with
  | none => none
  | some a => if Deletable.deleted a then none else some (t.insert k (change a))

/-- Marks a row deleted; a second deletion leaves the time of the first. -/
def bury? (t : Table κ α) (k : κ) (time : Instant) : Option (Table κ α) :=
  match t.get? k with
  | none => none
  | some a => if Deletable.deleted a then some t else some (t.insert k (Deletable.mark time a))

end Table

namespace Tables

variable (t : Tables)

/-- Identifiers and user names are both unique. -/
def insertUser (u : User) : Except Failure Tables :=
  if t.users.contains u.id then .error (.duplicate ("user " ++ u.id.toText))
  else if t.users.rows.any (fun other => other.username = u.username) then
    .error (.duplicate ("username " ++ u.username))
  else .ok { t with users := t.users.insert u.id u }

def insertSpace (s : Space) : Except Failure Tables :=
  if !t.users.contains s.owner then .error (.missingParent "spaces.owner_id")
  else if t.spaces.contains s.id then .error (.duplicate ("space " ++ s.id.toText))
  else .ok { t with spaces := t.spaces.insert s.id s }

def insertChannel (c : Channel) : Except Failure Tables :=
  if !t.spaces.contains c.space then .error (.missingParent "channels.space_id")
  else if t.channels.contains c.id then .error (.duplicate ("channel " ++ c.id.toText))
  else .ok { t with channels := t.channels.insert c.id c }

def insertSpaceMember (m : SpaceMember) : Except Failure Tables :=
  if !t.spaces.contains m.space then .error (.missingParent "space_members.space_id")
  else if !t.users.contains m.user then .error (.missingParent "space_members.user_id")
  else if t.spaceMembers.contains (m.space, m.user) then .error (.alreadySpaceMember m.space m.user)
  else .ok { t with spaceMembers := t.spaceMembers.insert (m.space, m.user) m }

def insertChannelMember (m : ChannelMember) : Except Failure Tables :=
  if !t.channels.contains m.channel then .error (.missingParent "channel_members.channel_id")
  else if !t.users.contains m.user then .error (.missingParent "channel_members.user_id")
  else if t.channelMembers.contains (m.channel, m.user) then
    .error (.alreadyChannelMember m.channel m.user)
  else .ok { t with channelMembers := t.channelMembers.insert (m.channel, m.user) m }

def insertMessage (m : Message) : Except Failure Tables :=
  if !t.channels.contains m.channel then .error (.missingParent "messages.channel_id")
  else if !t.users.contains m.author then .error (.missingParent "messages.author_id")
  else if t.messages.contains m.id then .error (.duplicate ("message " ++ m.id.toText))
  else .ok { t with messages := t.messages.insert m.id m }

def insertMedia (m : Media) : Except Failure Tables :=
  if !t.messages.contains m.message then .error (.missingParent "media.message_id")
  else if t.media.contains m.id then .error (.duplicate ("media " ++ m.id.toText))
  else .ok { t with media := t.media.insert m.id m }

/-- A new restraint takes the place of the one in the same scope on the same user. -/
def putRestraint (r : Restraint) : Except Failure Tables :=
  if !t.users.contains r.user then .error (.missingParent "restrained_members.user_id")
  else .ok { t with restraints := t.restraints.insert (r.scope, r.user) r }

def updateSpace? (s : Space) : Option Tables :=
  let change (stored : Space) :=
    { stored with name := s.name, description := s.description, updatedAt := s.updatedAt }
  (t.spaces.amend? s.id change).map ({ t with spaces := · })

def updateChannel? (c : Channel) : Option Tables :=
  let change (stored : Channel) := { stored with name := c.name, updatedAt := c.updatedAt }
  (t.channels.amend? c.id change).map ({ t with channels := · })

def updateMessage? (m : Message) : Option Tables :=
  let change (stored : Message) := { stored with body := m.body, updatedAt := m.updatedAt }
  (t.messages.amend? m.id change).map ({ t with messages := · })

def deleteSpace? (id : Ident) (time : Instant) : Option Tables :=
  (t.spaces.bury? id time).map ({ t with spaces := · })

def deleteChannel? (id : Ident) (time : Instant) : Option Tables :=
  (t.channels.bury? id time).map ({ t with channels := · })

def deleteMessage? (id : Ident) (time : Instant) : Option Tables :=
  (t.messages.bury? id time).map ({ t with messages := · })

def setRole? (space user : Ident) (role : Role) : Option (SpaceMember × Tables) :=
  (t.spaceMembers.get? (space, user)).map fun m =>
    let changed := { m with role := role }
    (changed, { t with spaceMembers := t.spaceMembers.insert (space, user) changed })

def removeSpaceMember? (space user : Ident) : Option Tables :=
  (t.spaceMembers.erase? (space, user)).map ({ t with spaceMembers := · })

def removeChannelMember? (channel user : Ident) : Option Tables :=
  (t.channelMembers.erase? (channel, user)).map ({ t with channelMembers := · })

def isChannelOf (space channel : Ident) : Bool :=
  (t.channels.get? channel).any (fun c => c.space = space)

/-- Drops the user's memberships in the channels of a space and counts them. -/
def removeChannelMembersIn (space user : Ident) : Nat × Tables :=
  let kept := t.channelMembers.filter (fun k _ => !(decide (k.2 = user) && t.isChannelOf space k.1))
  (t.channelMembers.size - kept.size, { t with channelMembers := kept })

def removeRestraint? (scope : Scope) (user : Ident) : Option Tables :=
  (t.restraints.erase? (scope, user)).map ({ t with restraints := · })

/-- Drops the restraints that are over at an instant and counts them. -/
def removeExpired (now : Instant) : Nat × Tables :=
  let kept := t.restraints.filter (fun _ r => decide (r.ActiveAt now))
  (t.restraints.size - kept.size, { t with restraints := kept })

end Tables

end ChatSpaces
