import ChatSpaces.Proofs.Store.Shared

/-!
# Operations in place

A unit of work changes its copy of the tables in place: a failure takes nothing back that was written before
it. Here every operation is written as such a procedure, check by check and write by write. A step of a store
comes to the same, for no operation writes anything before its last check.
-/

namespace ChatSpaces

namespace Tables

/-- Where a procedure fails it leaves the tables as they are at that moment. -/
abbrev Procedure := EStateM Failure Tables

namespace Procedure

def require (there : Tables → Bool) (column : String) : Procedure Unit :=
  fun t => if !there t then .error (.missingParent column) t else .ok () t

def vacant (taken : Tables → Bool) (f : Failure) : Procedure Unit :=
  fun t => if taken t then .error f t else .ok () t

def write (change : Tables → Tables) : Procedure Answer := fun t => .ok .done (change t)

def total (f : Tables → Answer × Tables) : Procedure Answer := fun t => .ok (f t).1 (f t).2

def insertUser (u : User) : Procedure Answer := do
  vacant (·.users.contains u.id) (.duplicate ("user " ++ u.id.toText))
  vacant (·.users.rows.any (·.username = u.username)) (.duplicate ("username " ++ u.username))
  write fun t => { t with users := t.users.insert u.id u }

def insertSpace (s : Space) : Procedure Answer := do
  require (·.users.contains s.owner) "spaces.owner_id"
  vacant (·.spaces.contains s.id) (.duplicate ("space " ++ s.id.toText))
  write fun t => { t with spaces := t.spaces.insert s.id s }

def insertChannel (c : Channel) : Procedure Answer := do
  require (·.spaces.contains c.space) "channels.space_id"
  vacant (·.channels.contains c.id) (.duplicate ("channel " ++ c.id.toText))
  write fun t => { t with channels := t.channels.insert c.id c }

def insertSpaceMember (m : SpaceMember) : Procedure Answer := do
  require (·.spaces.contains m.space) "space_members.space_id"
  require (·.users.contains m.user) "space_members.user_id"
  vacant (·.spaceMembers.contains (m.space, m.user)) (.alreadySpaceMember m.space m.user)
  write fun t => { t with spaceMembers := t.spaceMembers.insert (m.space, m.user) m }

def insertChannelMember (m : ChannelMember) : Procedure Answer := do
  require (·.channels.contains m.channel) "channel_members.channel_id"
  require (·.users.contains m.user) "channel_members.user_id"
  vacant (·.channelMembers.contains (m.channel, m.user)) (.alreadyChannelMember m.channel m.user)
  write fun t => { t with channelMembers := t.channelMembers.insert (m.channel, m.user) m }

def putRestraint (r : Restraint) : Procedure Answer := do
  require (·.users.contains r.user) "restrained_members.user_id"
  write fun t => { t with restraints := t.restraints.insert (r.scope, r.user) r }

def insertMessage (m : Message) : Procedure Answer := do
  require (·.channels.contains m.channel) "messages.channel_id"
  require (·.users.contains m.author) "messages.author_id"
  vacant (·.messages.contains m.id) (.duplicate ("message " ++ m.id.toText))
  write fun t => { t with messages := t.messages.insert m.id m }

def insertMedia (m : Media) : Procedure Answer := do
  require (·.messages.contains m.message) "media.message_id"
  vacant (·.media.contains m.id) (.duplicate ("media " ++ m.id.toText))
  write fun t => { t with media := t.media.insert m.id m }

end Procedure

open Procedure in
def Operation.procedure : Operation → Procedure Answer
  | insertUser u => Procedure.insertUser u
  | findUser id => total fun t => found t .user (t.user? id)
  | insertSpace s => Procedure.insertSpace s
  | findSpace v id => total fun t => found t .space (t.space? v id)
  | updateSpace s => total fun t => flagged t (t.updateSpace? s)
  | deleteSpace id time => total fun t => flagged t (t.deleteSpace? id time)
  | insertChannel c => Procedure.insertChannel c
  | findChannel v id => total fun t => found t .channel (t.channel? v id)
  | findChannelsIn v space => total fun t => listed t .channel (t.channelsIn v space)
  | findChannelInSpace v id => total fun t => found t .channelInSpace (t.channelInSpace? v id)
  | updateChannel c => total fun t => flagged t (t.updateChannel? c)
  | deleteChannel id time => total fun t => flagged t (t.deleteChannel? id time)
  | insertSpaceMember m => Procedure.insertSpaceMember m
  | findSpaceMember space user => total fun t => found t .spaceMember (t.spaceMember? space user)
  | findSpaceMembers space => total fun t => listed t .spaceMember (t.spaceMembersOf space)
  | setRole space user role => total fun t =>
    match t.setRole? space user role with
    | none => (.entity none, t)
    | some (m, changed) => (.one .spaceMember m, changed)
  | removeSpaceMember space user => total fun t => flagged t (t.removeSpaceMember? space user)
  | insertChannelMember m => Procedure.insertChannelMember m
  | findChannelMember channel user => total fun t => found t .channelMember (t.channelMember? channel user)
  | findChannelMembers channel => total fun t => listed t .channelMember (t.channelMembersOf channel)
  | removeChannelMember channel user => total fun t => flagged t (t.removeChannelMember? channel user)
  | removeChannelMembersIn space user => total fun t => counted (t.removeChannelMembersIn space user)
  | putRestraint r => Procedure.putRestraint r
  | findRestraint scope user => total fun t => found t .restraint (t.restraint? scope user)
  | findRestraintsIn scope => total fun t => listed t .restraint (t.restraintsIn scope)
  | removeRestraint scope user => total fun t => flagged t (t.removeRestraint? scope user)
  | removeExpired now => total fun t => counted (t.removeExpired now)
  | insertMessage m => Procedure.insertMessage m
  | findMessage v id => total fun t => found t .message (t.message? v id)
  | findMessagesIn v channel before limit => total fun t =>
    listed t .message (t.messagesIn v channel before limit)
  | updateMessage m => total fun t => flagged t (t.updateMessage? m)
  | deleteMessage id time => total fun t => flagged t (t.deleteMessage? id time)
  | insertMedia m => Procedure.insertMedia m
  | findMedia v message => total fun t => listed t .media (t.mediaOf v message)
  | lockUser _ => total fun t => (.done, t)

namespace Procedure

/-- In place the procedure comes to a result that is given at once. If that is a failure, a row was there
already or another one is missing, and the tables are as they were. -/
structure Performs (p : Procedure Answer) (t : Tables) (result : Except Failure (Answer × Tables)) : Prop where
  run : p.run t = match result with
    | .ok (a, u) => .ok a u
    | .error f => .error f t
  kind : ∀ f, result = .error f → f.kind = .conflict ∨ f.kind = .storage

variable {p : Procedure Answer} {t : Tables} {rest : Except Failure Tables}

theorem performs_require {there : Tables → Bool} {column : String} (next : p.Performs t (inserted rest)) :
    (do require there column; p).Performs t
      (inserted (if !there t then .error (.missingParent column) else rest)) := by
  have run : (do require there column; p).run t =
      if !there t then .error (.missingParent column) t else p.run t := by
    change EStateM.bind _ _ t = _
    rw [EStateM.bind, require]
    cases there t <;> rfl
  cases found : there t with
  | true =>
    rw [found] at run
    exact ⟨run.trans next.run, next.kind⟩
  | false =>
    rw [found] at run
    refine ⟨run, ?_⟩
    rintro f ⟨⟩
    exact .inr rfl

theorem performs_vacant {taken : Tables → Bool} {f : Failure} (conflict : f.kind = .conflict)
    (next : p.Performs t (inserted rest)) :
    (do vacant taken f; p).Performs t (inserted (if taken t then .error f else rest)) := by
  have run : (do vacant taken f; p).run t = if taken t then .error f t else p.run t := by
    change EStateM.bind _ _ t = _
    rw [EStateM.bind, vacant]
    cases taken t <;> rfl
  cases found : taken t with
  | true =>
    rw [found] at run
    refine ⟨run, ?_⟩
    rintro f ⟨⟩
    exact .inl conflict
  | false =>
    rw [found] at run
    exact ⟨run.trans next.run, next.kind⟩

theorem performs_write {change : Tables → Tables} :
    (write change).Performs t (inserted (.ok (change t))) :=
  ⟨rfl, fun _ failed => nomatch failed⟩

theorem performs_total {f : Tables → Answer × Tables} : (total f).Performs t (.ok (f t)) :=
  ⟨rfl, fun _ failed => nomatch failed⟩

end Procedure

namespace Operation

open Procedure

/-- Every operation does in place what it does when it is applied at once. -/
theorem performs_procedure (o : Operation) (t : Tables) : o.procedure.Performs t (o.apply t) := by
  cases o with
  | insertUser u => exact performs_vacant rfl (performs_vacant rfl performs_write)
  | insertSpace s => exact performs_require (performs_vacant rfl performs_write)
  | insertChannel c => exact performs_require (performs_vacant rfl performs_write)
  | insertSpaceMember m => exact performs_require (performs_require (performs_vacant rfl performs_write))
  | insertChannelMember m => exact performs_require (performs_require (performs_vacant rfl performs_write))
  | putRestraint r => exact performs_require performs_write
  | insertMessage m => exact performs_require (performs_require (performs_vacant rfl performs_write))
  | insertMedia m => exact performs_require (performs_vacant rfl performs_write)
  | setRole space user role =>
    have answered : apply t (.setRole space user role) = .ok (match t.setRole? space user role with
        | none => (.entity none, t)
        | some (m, changed) => (.one .spaceMember m, changed)) := by
      rw [apply]
      cases t.setRole? space user role <;> rfl
    rw [answered]
    exact performs_total
  | _ => exact performs_total

variable {o : Operation} {t u : Tables} {f : Failure}

theorem unchanged_of_error (failed : o.procedure.run t = .error f u) : u = t := by
  rw [(o.performs_procedure t).run] at failed
  cases applied : o.apply t with
  | error g =>
    rw [applied] at failed
    cases failed
    rfl
  | ok result =>
    rw [applied] at failed
    cases failed

theorem kind_ne_invalid_of_error (failed : o.apply t = .error f) : f.kind ≠ .invalid := by
  rcases (o.performs_procedure t).kind f failed with kind | kind
  · rw [kind]
    nofun
  · rw [kind]
    nofun

end Operation

end Tables

/-- A step within a unit of work is its procedure, carried out on the working copy. -/
theorem Store.step_perform_in_place (committed t : Tables) (o : Tables.Operation) :
    (⟨committed, some t⟩ : Store).step (.perform o) =
      match o.procedure.run t with
      | .ok a u => (.ok a, ⟨committed, some u⟩)
      | .error f u => (.error (.failed f), ⟨committed, some u⟩) := by
  rw [step_perform, outcome, (o.performs_procedure t).run]
  cases o.apply t <;> rfl

end ChatSpaces
