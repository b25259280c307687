import ChatSpaces.Entity
import ChatSpaces.Failure

/-!
# Rows of the relational store

Where a table keeps a name as text, its rows are read into entities here: an unknown role is a member,
an unknown scope or restraint kind is a broken row. The other tables keep what the entities hold.
-/

namespace ChatSpaces

open Time (Instant)

structure SpaceMemberRow where
  space : Ident
  user : Ident
  role : String
  joinedAt : Instant
deriving DecidableEq, Repr

def SpaceMemberRow.toMember (r : SpaceMemberRow) : SpaceMember :=
  ⟨r.space, r.user, Role.ofStored r.role, r.joinedAt⟩

structure ChannelInSpaceRow where
  id : Ident
  space : Ident
  name : String
  deleted : Bool
  createdAt : Instant
  updatedAt : Instant
  spaceName : String
  spaceDescription : String
  spaceOwner : Ident
  spaceDeleted : Bool
  spaceCreatedAt : Instant
  spaceUpdatedAt : Instant
deriving DecidableEq, Repr

def ChannelInSpaceRow.toChannelInSpace (r : ChannelInSpaceRow) : ChannelInSpace where
  channel := ⟨r.id, r.space, r.name, r.deleted, r.createdAt, r.updatedAt⟩
  space := ⟨r.space, r.spaceName, r.spaceDescription, r.spaceOwner, r.spaceDeleted, r.spaceCreatedAt,
    r.spaceUpdatedAt⟩

structure RestraintRow where
  scopeKind : String
  scopeId : Ident
  user : Ident
  kind : String
  expiresAt : Option Instant
  issuedBy : Ident
  issuedAt : Instant
  reason : Option String
deriving DecidableEq, Repr

def Restraint.toRow (r : Restraint) : RestraintRow where
  scopeKind := r.scope.kind.name
  scopeId := r.scope.id
  user := r.user
  kind := r.kind.name
  expiresAt := r.expiresAt
  issuedBy := r.issuedBy
  issuedAt := r.issuedAt
  reason := r.reason

namespace RestraintRow

/-- The scope is read first. -/
def toRestraint (r : RestraintRow) : Except Failure Restraint :=
  match Scope.Kind.ofName? r.scopeKind with
  | none => .error (.broken ("unknown scope kind in row: " ++ r.scopeKind))
  | some scopeKind =>
    match Restraint.Kind.read r.kind with
    | .error unknown => .error (.broken ("restraint row: " ++ unknown.message))
    | .ok kind => .ok {
        scope := .ofParts scopeKind r.scopeId
        user := r.user
        kind := kind
        expiresAt := r.expiresAt
        issuedBy := r.issuedBy
        issuedAt := r.issuedAt
        reason := r.reason }

end RestraintRow

end ChatSpaces
