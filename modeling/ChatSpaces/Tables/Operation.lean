import ChatSpaces.Answer
import ChatSpaces.Tables.Change
import ChatSpaces.Tables.Lookup

/-!
# Operations on the tables

Everything that a unit of work can do to its working copy, as data, with what each operation answers.
An operation that fails answers nothing and has no effect.
-/

namespace ChatSpaces

open Time (Instant)

namespace Tables

inductive Operation where
  | insertUser (u : User)
  | findUser (id : Ident)
  | insertSpace (s : Space)
  | findSpace (v : Visibility) (id : Ident)
  | updateSpace (s : Space)
  | deleteSpace (id : Ident) (time : Instant)
  | insertChannel (c : Channel)
  | findChannel (v : Visibility) (id : Ident)
  | findChannelsIn (v : Visibility) (space : Ident)
  | findChannelInSpace (v : Visibility) (id : Ident)
  | updateChannel (c : Channel)
  | deleteChannel (id : Ident) (time : Instant)
  | insertSpaceMember (m : SpaceMember)
  | findSpaceMember (space user : Ident)
  | findSpaceMembers (space : Ident)
  | setRole (space user : Ident) (role : Role)
  | removeSpaceMember (space user : Ident)
  | insertChannelMember (m : ChannelMember)
  | findChannelMember (channel user : Ident)
  | findChannelMembers (channel : Ident)
  | removeChannelMember (channel user : Ident)
  | removeChannelMembersIn (space user : Ident)
  | putRestraint (r : Restraint)
  | findRestraint (scope : Scope) (user : Ident)
  | findRestraintsIn (scope : Scope)
  | removeRestraint (scope : Scope) (user : Ident)
  | removeExpired (now : Instant)
  | insertMessage (m : Message)
  | findMessage (v : Visibility) (id : Ident)
  | findMessagesIn (v : Visibility) (channel : Ident) (before : Option Ident) (limit : Int)
  | updateMessage (m : Message)
  | deleteMessage (id : Ident) (time : Instant)
  | insertMedia (m : Media)
  | findMedia (v : Visibility) (message : Ident)
  /-- Units of work exclude each other already, so a lock on one user adds nothing. -/
  | lockUser (user : Ident)
deriving DecidableEq, Repr

def flagged (t : Tables) : Option Tables → Answer × Tables
  | none => (.flag false, t)
  | some changed => (.flag true, changed)

def counted (result : Nat × Tables) : Answer × Tables := (.count result.1, result.2)

def found {α : Type} (t : Tables) (f : α → Entity) (a : Option α) : Answer × Tables :=
  (.optional f a, t)

def listed {α : Type} (t : Tables) (f : α → Entity) (as : List α) : Answer × Tables :=
  (.many f as, t)

def inserted : Except Failure Tables → Except Failure (Answer × Tables) := Except.map (Answer.done, ·)

def Operation.apply (t : Tables) : Operation → Except Failure (Answer × Tables)
  | insertUser u => inserted (t.insertUser u)
  | findUser id => .ok (found t .user (t.user? id))
  | insertSpace s => inserted (t.insertSpace s)
  | findSpace v id => .ok (found t .space (t.space? v id))
  | updateSpace s => .ok (flagged t (t.updateSpace? s))
  | deleteSpace id time => .ok (flagged t (t.deleteSpace? id time))
  | insertChannel c => inserted (t.insertChannel c)
  | findChannel v id => .ok (found t .channel (t.channel? v id))
  | findChannelsIn v space => .ok (listed t .channel (t.channelsIn v space))
  | findChannelInSpace v id => .ok (found t .channelInSpace (t.channelInSpace? v id))
  | updateChannel c => .ok (flagged t (t.updateChannel? c))
  | deleteChannel id time => .ok (flagged t (t.deleteChannel? id time))
  | insertSpaceMember m => inserted (t.insertSpaceMember m)
  | findSpaceMember space user => .ok (found t .spaceMember (t.spaceMember? space user))
  | findSpaceMembers space => .ok (listed t .spaceMember (t.spaceMembersOf space))
  | setRole space user role =>
    match t.setRole? space user role with
    | none => .ok (.entity none, t)
    | some (m, changed) => .ok (.one .spaceMember m, changed)
  | removeSpaceMember space user => .ok (flagged t (t.removeSpaceMember? space user))
  | insertChannelMember m => inserted (t.insertChannelMember m)
  | findChannelMember channel user => .ok (found t .channelMember (t.channelMember? channel user))
  | findChannelMembers channel => .ok (listed t .channelMember (t.channelMembersOf channel))
  | removeChannelMember channel user => .ok (flagged t (t.removeChannelMember? channel user))
  | removeChannelMembersIn space user => .ok (counted (t.removeChannelMembersIn space user))
  | putRestraint r => inserted (t.putRestraint r)
  | findRestraint scope user => .ok (found t .restraint (t.restraint? scope user))
  | findRestraintsIn scope => .ok (listed t .restraint (t.restraintsIn scope))
  | removeRestraint scope user => .ok (flagged t (t.removeRestraint? scope user))
  | removeExpired now => .ok (counted (t.removeExpired now))
  | insertMessage m => inserted (t.insertMessage m)
  | findMessage v id => .ok (found t .message (t.message? v id))
  | findMessagesIn v channel before limit => .ok (listed t .message (t.messagesIn v channel before limit))
  | updateMessage m => .ok (flagged t (t.updateMessage? m))
  | deleteMessage id time => .ok (flagged t (t.deleteMessage? id time))
  | insertMedia m => inserted (t.insertMedia m)
  | findMedia v message => .ok (listed t .media (t.mediaOf v message))
  | lockUser _ => .ok (.done, t)

end Tables

end ChatSpaces
