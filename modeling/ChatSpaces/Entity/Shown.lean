import ChatSpaces.Entity

/-!
# Entities with their marks

Operators are shown more than clients: the marks that an entity carries and what follows from its fields.
A channel joined to its space and a space with what belongs to it are made of entities that are shown the
same way.
-/

namespace ChatSpaces.Entity

def channelMarks (c : Channel) : List (String × Document) := [("deleted", .bool c.deleted)]

def spaceMarks (s : Space) : List (String × Document) := [("deleted", .bool s.deleted)]

def spaceMemberMarks (m : SpaceMember) : List (String × Document) :=
  [("can_moderate", .bool m.canModerate)]

def shownChannel (c : Channel) : Document := .record (channelFields c ++ channelMarks c)

def shownSpace (s : Space) : Document := .record (spaceFields s ++ spaceMarks s)

def shownMember (m : SpaceMember) : Document := .record (spaceMemberFields m ++ spaceMemberMarks m)

def marks : Entity → List (String × Document)
  | .user u => [("shown_name", .text u.shownName)]
  | .space s => spaceMarks s
  | .channel c => channelMarks c
  | .message m => [("deleted", .bool m.deleted), ("is_edited", .bool m.isEdited)]
  | .media m => [("is_image", .bool m.isImage)]
  | .spaceMember m => spaceMemberMarks m
  | .channelMember _ => []
  | .restraint r => [("is_indefinite", .bool r.isIndefinite)]
  | .channelInSpace j =>
    [("channel", shownChannel j.channel), ("space", shownSpace j.space),
     ("space_is_live", .bool j.spaceIsLive)]
  | .spaceOverview o =>
    [("space", shownSpace o.space), ("members", .list (o.members.map shownMember)),
     ("channels", .list (o.channels.map shownChannel))]

/-- The form in which operators are shown an entity. -/
def shown : Entity → Document
  | .channelInSpace j => .record (marks (.channelInSpace j))
  | .spaceOverview o => .record (marks (.spaceOverview o))
  | e => .record (e.fields ++ e.marks)

end ChatSpaces.Entity
