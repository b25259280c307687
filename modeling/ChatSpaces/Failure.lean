import ChatSpaces.Restraint

/-!
# What can go wrong

Three layers of causes, each with its text, code and class. A violation says what a user may not do; a
failure is what a rule of the domain or the store answers; a refusal is what a service answers.
-/

namespace ChatSpaces

open Time (Instant)

inductive Violation where
  | notSpaceMember (space : Ident)
  | notChannelMember (channel : Ident)
  | spaceUnavailable (space : Ident)
  | restrained (scope : Scope) (kind : Restraint.Kind) (expiresAt : Option Instant)
  | notAuthorOrModerator
  | notAuthor
  | notSpaceModerator (space : Ident)
deriving DecidableEq, Repr

namespace Violation

def name : Violation → String
  | .notSpaceMember _ => "NotSpaceMember"
  | .notChannelMember _ => "NotChannelMember"
  | .spaceUnavailable _ => "SpaceUnavailable"
  | .restrained .. => "Restrained"
  | .notAuthorOrModerator => "NotAuthorOrModerator"
  | .notAuthor => "NotAuthor"
  | .notSpaceModerator _ => "NotSpaceModerator"

def expiryText : Option Instant → String
  | none => ""
  | some e => " until " ++ e.toOffsetText

def message : Violation → String
  | .notSpaceMember s => s!"You must be a member of space {s} first"
  | .notChannelMember c => s!"You are not a member of channel {c}"
  | .spaceUnavailable s => s!"Space {s} is no longer available"
  | .restrained s k e => "You are restrained (" ++ k.name ++ ") in " ++ s.toText ++ expiryText e
  | .notAuthorOrModerator => "Only the author or a space moderator can do that"
  | .notAuthor => "Only the author can edit this message"
  | .notSpaceModerator s => s!"Only admins or the owner of space {s} can do that"

def code : Violation → String
  | .restrained .. => "RESTRAINED"
  | _ => "POLICY_VIOLATION"

end Violation

inductive FailureKind where
  | notFound
  | conflict
  | violation
  | invalid
  | storage
deriving DecidableEq, Repr

def FailureKind.name : FailureKind → String
  | .notFound => "NotFound"
  | .conflict => "Conflict"
  | .violation => "PolicyViolation"
  | .invalid => "Validation"
  | .storage => "Storage"

def FailureKind.status : FailureKind → Nat
  | .notFound => 404
  | .conflict => 409
  | .violation => 403
  | .invalid => 400
  | .storage => 500

inductive Failure where
  | userNotFound (id : Ident)
  | spaceNotFound (id : Ident)
  | channelNotFound (id : Ident)
  | messageNotFound (id : Ident)
  | alreadySpaceMember (space user : Ident)
  | alreadyChannelMember (channel user : Ident)
  | duplicate (record : String)
  | violation (cause : Violation)
  | invalid (text : String)
  | database (text : String)
  | broken (text : String)
deriving DecidableEq, Repr

namespace Failure

def message : Failure → String
  | .userNotFound i => s!"User not found: {i}"
  | .spaceNotFound i => s!"Space not found: {i}"
  | .channelNotFound i => s!"Channel not found: {i}"
  | .messageNotFound i => s!"Message not found: {i}"
  | .alreadySpaceMember s u => s!"User {u} is already a member of space {s}"
  | .alreadyChannelMember c u => s!"User {u} is already a member of channel {c}"
  | .duplicate r => "Duplicate record: " ++ r
  | .violation v => v.message
  | .invalid t => "Validation error: " ++ t
  | .database t => "Database error: " ++ t
  | .broken t => "Internal error: " ++ t

def code : Failure → String
  | .userNotFound _ => "UNKNOWN_USER"
  | .spaceNotFound _ => "UNKNOWN_SPACE"
  | .channelNotFound _ => "UNKNOWN_CHANNEL"
  | .messageNotFound _ => "UNKNOWN_MESSAGE"
  | .alreadySpaceMember .. => "ALREADY_MEMBER"
  | .alreadyChannelMember .. => "ALREADY_MEMBER"
  | .duplicate _ => "DUPLICATE"
  | .violation v => v.code
  | .invalid _ => "VALIDATION_ERROR"
  | .database _ => "DATABASE_ERROR"
  | .broken _ => "INTERNAL_ERROR"

def kind : Failure → FailureKind
  | .userNotFound _ => .notFound
  | .spaceNotFound _ => .notFound
  | .channelNotFound _ => .notFound
  | .messageNotFound _ => .notFound
  | .alreadySpaceMember .. => .conflict
  | .alreadyChannelMember .. => .conflict
  | .duplicate _ => .conflict
  | .violation _ => .violation
  | .invalid _ => .invalid
  | .database _ => .storage
  | .broken _ => .storage

/-- The caller can do something about it: name another row, or see that it is there. -/
def isRecoverable (f : Failure) : Bool := f.kind = .notFound || f.kind = .conflict

/-- A row names another that does not exist. -/
def missingParent (column : String) : Failure := .database ("foreign key violation: " ++ column)

end Failure

inductive Refusal where
  | failed (cause : Failure)
  | missing (resource id : String)
  | invalid (text : String)
  | broken (text : String)
deriving DecidableEq, Repr

namespace Refusal

def message : Refusal → String
  | .failed f => f.message
  | .missing resource id => resource ++ " not found: " ++ id
  | .invalid t => "Validation error: " ++ t
  | .broken t => "Internal error: " ++ t

def code : Refusal → String
  | .failed f => f.code
  | .missing .. => "NOT_FOUND"
  | .invalid _ => "VALIDATION_ERROR"
  | .broken _ => "INTERNAL_ERROR"

def kind : Refusal → FailureKind
  | .failed f => f.kind
  | .missing .. => .notFound
  | .invalid _ => .invalid
  | .broken _ => .storage

def status (r : Refusal) : Nat := r.kind.status

end Refusal

/-- A rule of the caller that is broken stops the program instead of being answered. -/
inductive Crash where
  | workerOutOfRange
  | timeOutOfRange
deriving DecidableEq, Repr

def Crash.message : Crash → String
  | .workerOutOfRange => "Worker ID must be < 1024"
  | .timeOutOfRange => "`DateTime + TimeDelta` overflowed"

end ChatSpaces
