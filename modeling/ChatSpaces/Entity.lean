import ChatSpaces.Restraint
import ChatSpaces.Role
import ChatSpaces.Text.Bytes

/-!
# Entities

What the store holds and the reads return. Spaces, channels and messages are marked deleted instead of
removed; the mark is not part of what is shown to clients.
-/

namespace ChatSpaces

open Time (Instant)

structure User where
  id : Ident
  username : String
  displayName : String
  deactivated : Bool
  createdAt : Instant
deriving DecidableEq, Repr

structure Space where
  id : Ident
  name : String
  description : String
  owner : Ident
  deleted : Bool
  createdAt : Instant
  updatedAt : Instant
deriving DecidableEq, Repr

structure Channel where
  id : Ident
  space : Ident
  name : String
  deleted : Bool
  createdAt : Instant
  updatedAt : Instant
deriving DecidableEq, Repr

structure Message where
  id : Ident
  channel : Ident
  author : Ident
  body : String
  deleted : Bool
  createdAt : Instant
  updatedAt : Instant
deriving DecidableEq, Repr

/-- Rows that can be marked deleted, at a time that is then the last at which they have changed. -/
class Deletable (α : Type) where
  deleted : α → Bool
  mark : Instant → α → α

instance : Deletable Space where
  deleted := (·.deleted)
  mark time s := { s with deleted := true, updatedAt := time }

instance : Deletable Channel where
  deleted := (·.deleted)
  mark time c := { c with deleted := true, updatedAt := time }

instance : Deletable Message where
  deleted := (·.deleted)
  mark time m := { m with deleted := true, updatedAt := time }

structure Media where
  id : Ident
  message : Ident
  /-- Where the bytes are kept; the store never has them. -/
  storageRef : String
  contentType : String
  createdAt : Instant
deriving DecidableEq, Repr

structure SpaceMember where
  space : Ident
  user : Ident
  role : Role
  joinedAt : Instant
deriving DecidableEq, Repr

structure ChannelMember where
  channel : Ident
  user : Ident
  joinedAt : Instant
deriving DecidableEq, Repr

structure ChannelInSpace where
  channel : Channel
  space : Space
deriving DecidableEq, Repr

structure SpaceOverview where
  space : Space
  members : List SpaceMember
  channels : List Channel
deriving DecidableEq, Repr

/-- The name shown for a user: the user name where the display name is blank. -/
def User.shownName (u : User) : String :=
  if Text.IsBlankText u.displayName then u.username else u.displayName

def Space.isOwner (s : Space) (user : Ident) : Bool := s.owner = user

namespace Message

def isAuthor (m : Message) (user : Ident) : Bool := m.author = user

theorem not_isAuthor_iff {m : Message} {user : Ident} : (!m.isAuthor user) = true ↔ m.author ≠ user := by
  simp [isAuthor]

/-- Changed after it was posted, and still there. -/
def isEdited (m : Message) : Bool := !m.deleted && decide (m.createdAt < m.updatedAt)

def edit (m : Message) (body : String) (now : Instant) : Message :=
  { m with body := body, updatedAt := now }

/-- A beginning of the body that has at most `limit` bytes in UTF-8. There would be none if no place to cut at were
found, or if the cut went through a character. -/
def preview? (m : Message) (limit : Nat) : Option String :=
  if m.body.utf8ByteSize ≤ limit then some m.body
  else do
    let stop ← Text.boundaryBack? m.body limit
    Text.upTo? m.body stop

theorem isSome_preview? (m : Message) (limit : Nat) : (m.preview? limit).isSome = true := by
  unfold preview?
  split
  · rfl
  · obtain ⟨stop, found⟩ := Text.exists_boundaryBack? m.body limit
    obtain ⟨-, valid, -⟩ := Text.boundaryBack?_spec found
    obtain ⟨p, rest, whole, rfl⟩ := Text.isValid_iff_exists_append.mp valid
    rw [found, whole]
    exact Option.isSome_of_eq_some (Text.upTo?_append p rest)

def preview (m : Message) (limit : Nat) : String := (m.preview? limit).get (m.isSome_preview? limit)

end Message

def Media.isImage (m : Media) : Bool := "image/".toList.isPrefixOf m.contentType.toList

def SpaceMember.canModerate (m : SpaceMember) : Bool := m.role.canModerate

def ChannelInSpace.spaceIsLive (j : ChannelInSpace) : Bool := !j.space.deleted

inductive Entity where
  | user (u : User)
  | space (s : Space)
  | channel (c : Channel)
  | message (m : Message)
  | media (m : Media)
  | spaceMember (m : SpaceMember)
  | channelMember (m : ChannelMember)
  | restraint (r : Restraint)
  | channelInSpace (j : ChannelInSpace)
  | spaceOverview (o : SpaceOverview)
deriving DecidableEq, Repr

namespace Entity

open Document (ofOption)

def instantDocument (i : Instant) : Document := .text i.toText

def userFields (u : User) : List (String × Document) :=
  [("id", u.id.document), ("username", .text u.username), ("display_name", .text u.displayName),
   ("deactivated", .bool u.deactivated), ("created_at", instantDocument u.createdAt)]

def spaceFields (s : Space) : List (String × Document) :=
  [("id", s.id.document), ("name", .text s.name), ("description", .text s.description),
   ("owner_id", s.owner.document), ("created_at", instantDocument s.createdAt),
   ("updated_at", instantDocument s.updatedAt)]

def channelFields (c : Channel) : List (String × Document) :=
  [("id", c.id.document), ("space_id", c.space.document), ("name", .text c.name),
   ("created_at", instantDocument c.createdAt), ("updated_at", instantDocument c.updatedAt)]

def messageFields (m : Message) : List (String × Document) :=
  [("id", m.id.document), ("channel_id", m.channel.document), ("author_id", m.author.document),
   ("body", .text m.body), ("created_at", instantDocument m.createdAt),
   ("updated_at", instantDocument m.updatedAt)]

def mediaFields (m : Media) : List (String × Document) :=
  [("id", m.id.document), ("message_id", m.message.document), ("storage_ref", .text m.storageRef),
   ("content_type", .text m.contentType), ("created_at", instantDocument m.createdAt)]

def spaceMemberFields (m : SpaceMember) : List (String × Document) :=
  [("space_id", m.space.document), ("user_id", m.user.document), ("role", m.role.document),
   ("joined_at", instantDocument m.joinedAt)]

def channelMemberFields (m : ChannelMember) : List (String × Document) :=
  [("channel_id", m.channel.document), ("user_id", m.user.document),
   ("joined_at", instantDocument m.joinedAt)]

def restraintFields (r : Restraint) : List (String × Document) :=
  [("scope", r.scope.document), ("user_id", r.user.document), ("kind", r.kind.document),
   ("expires_at", ofOption instantDocument r.expiresAt), ("issued_by", r.issuedBy.document),
   ("issued_at", instantDocument r.issuedAt), ("reason", ofOption Document.text r.reason)]

def fields : Entity → List (String × Document)
  | .user u => userFields u
  | .space s => spaceFields s
  | .channel c => channelFields c
  | .message m => messageFields m
  | .media m => mediaFields m
  | .spaceMember m => spaceMemberFields m
  | .channelMember m => channelMemberFields m
  | .restraint r => restraintFields r
  | .channelInSpace j =>
    [("channel", .record (channelFields j.channel)), ("space", .record (spaceFields j.space))]
  | .spaceOverview o =>
    [("space", .record (spaceFields o.space)),
     ("members", .list (o.members.map fun m => .record (spaceMemberFields m))),
     ("channels", .list (o.channels.map fun c => .record (channelFields c)))]

def document (e : Entity) : Document := .record e.fields

end Entity

end ChatSpaces
