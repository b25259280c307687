import ChatSpaces.Service.Call

/-!
# Stages of an action

An action stands before, in or after its unit of work. Every call opens one unit and touches the tables only
within it. A call that writes commits that unit when nothing but its answer is left; a call that only looks
never commits, and none is refused after it has committed. So what the committed tables are in the end follows
from how a call ends.
-/

namespace ChatSpaces.Service

inductive Stage where
  | before
  | inside
  | after
deriving DecidableEq, Repr

namespace Action

variable {α β : Type} {p q r : Stage}

/-- The action can be taken at the first stage and is answered at the second, unless it is refused. After the
commit there is only the answer. -/
def Staged : Action α → Stage → Stage → Prop
  | .done _, p, q => p = q
  | .refuse _, p, _ => p ≠ .after
  | .enter rest, p, q => p = .before ∧ rest.Staged .inside q
  | .touch _ next, p, q => p = .inside ∧ ∀ b, (next b).Staged .inside q
  | .draw _ next, p, q => p ≠ .after ∧ ∀ i, (next i).Staged p q
  | .commit rest, p, q => p = .inside ∧ rest.Staged .after q

theorem Staged.eq_done {a : Action α} (h : a.Staged .after q) : q = .after ∧ ∃ x, a = .done x := by
  cases a with
  | done x => exact ⟨h.symm, x, rfl⟩
  | refuse r => exact absurd rfl h
  | enter rest => cases h.1
  | touch f next => cases h.1
  | draw wall next => exact absurd rfl h.1
  | commit rest => cases h.1

theorem staged_bind {a : Action α} {k : α → Action β} (first : a.Staged p q) (second : ∀ x, (k x).Staged q r) :
    (a >>= k).Staged p r := by
  change (a.bind k).Staged p r
  induction a generalizing p with
  | done a =>
    cases first
    exact second a
  | refuse r => exact first
  | enter rest ih => exact ⟨first.1, ih first.2⟩
  | touch f next ih => exact ⟨first.1, fun b => ih b (first.2 b)⟩
  | draw wall next ih => exact ⟨first.1, fun i => ih i (first.2 i)⟩
  | commit rest ih => exact ⟨first.1, ih first.2⟩

theorem staged_map {f : α → β} {a : Action α} (h : a.Staged p q) : (f <$> a).Staged p q := by
  rw [← bind_pure_comp]
  exact staged_bind h fun _ => rfl

theorem staged_openUnit : openUnit.Staged .before .inside := ⟨rfl, rfl⟩

theorem staged_commitUnit : commitUnit.Staged .inside .after := ⟨rfl, rfl⟩

theorem staged_answer {x : α} : (commitUnit >>= fun _ => pure x).Staged .inside .after :=
  staged_bind staged_commitUnit fun _ => rfl

theorem staged_fail {f : Failure} : (fail f : Action α).Staged .inside q := nofun

theorem staged_see {look : Tables → α} : (see look).Staged .inside .inside := ⟨rfl, fun _ => rfl⟩

theorem staged_demand {look : Tables → Option α} {otherwise : Failure} :
    (demand look otherwise).Staged .inside .inside := by
  refine staged_bind staged_see fun found => ?_
  cases found with
  | none => exact staged_fail
  | some row => rfl

theorem staged_write {insertion : Tables → Except Failure Tables} : (write insertion).Staged .inside .inside := by
  refine ⟨rfl, fun failure => ?_⟩
  cases failure with
  | none => rfl
  | some f => exact staged_fail

theorem staged_revise {edit : Tables → Option (α × Tables)} : (revise edit).Staged .inside .inside :=
  ⟨rfl, fun _ => rfl⟩

theorem staged_change {edit : Tables → Option Tables} : (change edit).Staged .inside .inside :=
  ⟨rfl, fun _ => rfl⟩

theorem staged_changeOr {edit : Tables → Option Tables} {otherwise : Failure} :
    (changeOr edit otherwise).Staged .inside .inside := by
  refine staged_bind staged_change fun changed => ?_
  cases changed with
  | false => exact staged_fail
  | true => rfl

theorem staged_tally {edit : Tables → Nat × Tables} : (tally edit).Staged .inside .inside := ⟨rfl, fun _ => rfl⟩

theorem staged_freshIdent {c : Context} (uncommitted : p ≠ .after) : (freshIdent c).Staged p p :=
  ⟨uncommitted, fun _ => rfl⟩

theorem staged_check {ps : List Request.Problem} : (check ps).Staged .before .before := by
  unfold check
  split
  · rfl
  · exact nofun

theorem staged_permit {v : Option Violation} : (permit v).Staged .inside .inside := by
  cases v with
  | none => rfl
  | some v => exact staged_fail

end Action

section Calls

open Service.Action

variable {c : Context}

theorem staged_requireModerator {space user : Ident} : (requireModerator space user).Staged .inside .inside := by
  refine staged_bind staged_see fun moderator => ?_
  cases moderator with
  | false => exact staged_fail
  | true => rfl

theorem staged_demandScope {scope : Scope} : (demandScope scope).Staged .inside .inside := by
  cases scope with
  | space id => exact staged_bind staged_demand fun _ => rfl
  | channel id => exact staged_bind staged_demand fun _ => rfl

theorem staged_createUser {r : CreateUser} : (createUser c r).Staged .before .after :=
  staged_bind staged_check fun _ => staged_bind (staged_freshIdent nofun) fun _ =>
    staged_bind staged_openUnit fun _ => staged_bind staged_write fun _ => staged_answer

theorem staged_createSpace {owner : Ident} {r : CreateSpace} : (createSpace c owner r).Staged .before .after :=
  staged_bind staged_check fun _ => staged_bind (staged_freshIdent nofun) fun _ =>
    staged_bind staged_openUnit fun _ => staged_bind staged_demand fun _ =>
      staged_bind staged_write fun _ => staged_bind staged_write fun _ => staged_answer

theorem staged_createChannel {space : Ident} {r : CreateChannel} :
    (createChannel c space r).Staged .before .after :=
  staged_bind staged_check fun _ => staged_bind staged_openUnit fun _ => staged_bind staged_demand fun _ =>
    staged_bind (staged_freshIdent nofun) fun _ => staged_bind staged_write fun _ => staged_answer

theorem staged_renameSpace {actor space : Ident} {r : RenameSpace} :
    (renameSpace c actor space r).Staged .before .after :=
  staged_bind staged_check fun _ => staged_bind staged_openUnit fun _ => staged_bind staged_demand fun _ =>
    staged_bind staged_requireModerator fun _ => staged_bind staged_changeOr fun _ => staged_answer

theorem staged_renameChannel {actor channel : Ident} {r : RenameChannel} :
    (renameChannel c actor channel r).Staged .before .after :=
  staged_bind staged_check fun _ => staged_bind staged_openUnit fun _ => staged_bind staged_demand fun _ =>
    staged_bind staged_requireModerator fun _ => staged_bind staged_changeOr fun _ => staged_answer

theorem staged_deleteContent {kind : ContentKind} {id : Ident} : (deleteContent c kind id).Staged .before .after :=
  staged_bind staged_openUnit fun _ => staged_bind staged_changeOr fun _ => staged_commitUnit

theorem staged_postMessage {channel author : Ident} {r : PostMessage} :
    (postMessage c channel author r).Staged .before .after :=
  staged_bind staged_check fun _ => staged_bind staged_openUnit fun _ => staged_bind staged_demand fun _ =>
    staged_bind staged_permit fun _ => staged_bind (staged_freshIdent nofun) fun _ =>
      staged_bind staged_write fun _ => staged_answer

theorem staged_editMessage {actor message : Ident} {r : EditMessage} :
    (editMessage c actor message r).Staged .before .after := by
  refine staged_bind staged_check fun _ => staged_bind staged_openUnit fun _ =>
    staged_bind staged_demand fun m => ?_
  split
  · exact staged_fail
  · exact staged_bind staged_demand fun _ => staged_bind staged_permit fun _ =>
      staged_bind staged_changeOr fun _ => staged_answer

theorem staged_attachMedia {message : Ident} {r : AttachMedia} : (attachMedia c message r).Staged .before .after :=
  staged_bind staged_check fun _ => staged_bind staged_openUnit fun _ => staged_bind staged_demand fun _ =>
    staged_bind (staged_freshIdent nofun) fun _ => staged_bind staged_write fun _ => staged_answer

theorem staged_deleteMessageAs {actor message : Ident} :
    (deleteMessageAs c actor message).Staged .before .after := by
  refine staged_bind staged_openUnit fun _ => staged_bind staged_demand fun m => ?_
  have deletion : (change (·.deleteMessage? message c.now) >>= fun _ => commitUnit).Staged .inside .after :=
    staged_bind staged_change fun _ => staged_commitUnit
  split
  · refine staged_bind staged_demand fun channel => staged_bind staged_see fun moderator => ?_
    split
    · exact staged_fail
    · exact deletion
  · exact deletion

theorem staged_addSpaceMember {space user : Ident} {role : Role} :
    (addSpaceMember c space user role).Staged .before .after :=
  staged_bind staged_openUnit fun _ => staged_bind staged_demand fun _ => staged_bind staged_demand fun _ =>
    staged_bind staged_write fun _ => staged_answer

theorem staged_addChannelMember {channel user : Ident} :
    (addChannelMember c channel user).Staged .before .after := by
  refine staged_bind staged_openUnit fun _ => staged_bind staged_demand fun _ =>
    staged_bind staged_demand fun _ => staged_bind staged_see fun member => ?_
  split
  · exact staged_fail
  · exact staged_bind staged_write fun _ => staged_answer

theorem staged_endMembership {user : Ident} {scope : Scope} : (endMembership user scope).Staged .inside .inside := by
  cases scope with
  | space id => exact staged_bind staged_change fun _ => staged_bind staged_tally fun _ => rfl
  | channel id => exact staged_change

theorem staged_removeMember {scope : Scope} {user : Ident} : (removeMember scope user).Staged .before .after :=
  staged_bind staged_openUnit fun _ => staged_bind staged_endMembership fun _ => staged_answer

theorem staged_setSpaceRole {space user : Ident} {role : Role} :
    (setSpaceRole space user role).Staged .before .after := by
  refine staged_bind staged_openUnit fun _ => staged_bind staged_demand fun _ =>
    staged_bind staged_revise fun revised => ?_
  cases revised with
  | none => exact nofun
  | some m => exact staged_answer

theorem staged_restrain {scope : Scope} {user issuedBy : Ident} {r : Restrain} :
    (restrain c scope user issuedBy r).Staged .before .after :=
  staged_bind staged_check fun _ => staged_bind staged_openUnit fun _ =>
    staged_bind staged_demandScope fun _ => staged_bind staged_demand fun _ =>
      staged_bind staged_write fun _ => staged_answer

theorem staged_revokeRestraint {scope : Scope} {user : Ident} : (revokeRestraint scope user).Staged .before .after :=
  staged_bind staged_openUnit fun _ => staged_bind staged_change fun _ => staged_answer

theorem staged_purgeExpired : (purgeExpired c).Staged .before .after :=
  staged_bind staged_openUnit fun _ => staged_bind staged_tally fun _ => staged_answer

namespace Call

def isRead : Call → Bool
  | getUser .. | canPost .. | spaceMembers .. | channelMembers .. | activeRestraint .. | isRestrained ..
  | restraintsInScope .. | channelInSpace .. | channelsInSpace .. | spaceOverview .. | message ..
  | messagesInChannel .. | mediaOfMessage .. => true
  | _ => false

def lastStage (c : Call) : Stage := if c.isRead then .inside else .after

theorem lastStage_eq_after_iff {c : Call} : c.lastStage = .after ↔ c.isRead = false := by
  unfold lastStage
  cases c.isRead <;> decide

theorem inside_eq_lastStage_iff {c : Call} : .inside = c.lastStage ↔ c.isRead = true := by
  unfold lastStage
  cases c.isRead <;> decide

theorem before_ne_lastStage (c : Call) : .before ≠ c.lastStage := by
  unfold lastStage
  cases c.isRead <;> decide

end Call

/-- Calls that write, and no others, are answered after a commit. -/
theorem staged_perform (call : Call) (c : Context) : (call.perform c).Staged .before call.lastStage := by
  have opened {α : Type} {a : Action α} (h : a.Staged .inside .inside) :
      (openUnit >>= fun _ => a).Staged .before .inside :=
    staged_bind staged_openUnit fun _ => h
  cases call with
  | createUser r => exact staged_map staged_createUser
  | getUser user => exact staged_map (opened staged_demand)
  | createSpace owner r => exact staged_map staged_createSpace
  | createChannel space r => exact staged_map staged_createChannel
  | renameSpace actor space r => exact staged_map staged_renameSpace
  | renameChannel actor channel r => exact staged_map staged_renameChannel
  | deleteContent kind id => exact staged_map staged_deleteContent
  | postMessage channel author r => exact staged_map staged_postMessage
  | editMessage actor message r => exact staged_map staged_editMessage
  | attachMedia message r => exact staged_map staged_attachMedia
  | deleteMessageAs actor message => exact staged_map staged_deleteMessageAs
  | addSpaceMember space user role => exact staged_map staged_addSpaceMember
  | addChannelMember channel user => exact staged_map staged_addChannelMember
  | removeMember scope user => exact staged_map staged_removeMember
  | setSpaceRole space user role => exact staged_map staged_setSpaceRole
  | restrain scope user issuedBy r => exact staged_map staged_restrain
  | revokeRestraint scope user => exact staged_map staged_revokeRestraint
  | purgeExpired => exact staged_map staged_purgeExpired
  | canPost | activeRestraint | restraintsInScope => exact staged_map (opened staged_see)
  | isRestrained scope user time => exact staged_map (staged_bind (opened staged_see) fun _ => rfl)
  | channelInSpace | message => exact staged_map (opened staged_demand)
  | spaceMembers | channelMembers | channelsInSpace | mediaOfMessage =>
    exact staged_map (opened (staged_bind staged_demand fun _ => staged_see))
  | spaceOverview space =>
    exact staged_map (opened (staged_bind staged_demand fun _ => staged_bind staged_see fun _ =>
      staged_bind staged_see fun _ => rfl))
  | messagesInChannel channel page =>
    exact staged_map (staged_bind staged_check fun _ => opened (staged_bind staged_demand fun _ => staged_see))

end Calls

/-- Of an action that has not committed yet the committed tables become the working copy if it ends after a commit,
and stay what they were if it ends before one or is refused. -/
theorem Action.committed_of_run {α : Type} {a : Action α} {p q : Stage} (staged : a.Staged p q)
    (uncommitted : p ≠ .after) (w : Work) :
    match a.run w with
    | .ok _ v => v.committed = if q = .after then v.tables else w.committed
    | .error _ v => v.committed = w.committed := by
  induction a generalizing p w with
  | done a =>
    cases staged
    exact (if_neg uncommitted).symm
  | refuse r => rfl
  | enter rest ih => exact ih staged.2 nofun _
  | touch f next ih => exact ih _ (staged.2 _) nofun _
  | draw wall next ih => exact ih _ (staged.2 _) uncommitted _
  | commit rest _ =>
    -- Nothing but the answer follows, so the copy that was committed is the one that is left.
    obtain ⟨rfl, x, rfl⟩ := staged.2.eq_done
    exact (if_pos rfl).symm

end ChatSpaces.Service
