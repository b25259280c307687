import ChatSpaces.Proofs.Service.Outcome
import ChatSpaces.Service.Call

/-!
# Kinds of refusals

Any call may find that something is missing or not allowed. Of which other kinds the refusals of an action can be
follows from its parts: requests that are checked can be invalid, insertions can fail in the store.
-/

namespace ChatSpaces.Service

namespace Action

variable {α β : Type} {others : List FailureKind}

def Refuses (others : List FailureKind) (a : Action α) : Prop :=
  ∀ l t r u, a.Yields l t (.error r) u → r.kind ∈ .notFound :: .violation :: others

theorem refuses_pure {x : α} : (pure x : Action α).Refuses others :=
  fun _ _ _ _ refused => absurd refused not_pure_refused

theorem refuses_bind {a : Action α} {k : α → Action β} (first : a.Refuses others)
    (second : ∀ x, (k x).Refuses others) : (a >>= k).Refuses others := by
  intro l t r u refused
  rcases refused_bind refused with ⟨v, here⟩ | ⟨m, n, x, v, -, later⟩
  · exact first l t r v here
  · exact second x n v r u later

theorem refuses_map {f : α → β} {a : Action α} (h : a.Refuses others) : (f <$> a).Refuses others := by
  intro l t r u refused
  obtain ⟨v, here⟩ := refused_map refused
  exact h l t r v here

theorem refuses_refuse {r : Refusal} (kind : r.kind ∈ .notFound :: .violation :: others) :
    (refuse r : Action α).Refuses others := by
  intro l t s u refused
  cases refused.2.1
  exact kind

theorem refuses_missing {f : Failure} (kind : f.kind = .notFound) : (fail f : Action α).Refuses others := by
  apply refuses_refuse
  rw [Refusal.kind, kind]
  exact .head _

theorem refuses_violation {v : Violation} : (fail (.violation v) : Action α).Refuses others :=
  refuses_refuse (.tail _ (.head _))

theorem refuses_openUnit : openUnit.Refuses others := fun _ _ _ _ refused => absurd refused not_pure_refused

theorem refuses_commitUnit : commitUnit.Refuses others := fun _ _ _ _ refused => absurd refused not_pure_refused

theorem refuses_answer {x : α} : (commitUnit >>= fun _ => pure x).Refuses others :=
  refuses_bind refuses_commitUnit fun _ => refuses_pure

theorem refuses_see {look : Tables → α} : (see look).Refuses others :=
  fun _ _ _ _ refused => absurd refused not_pure_refused

theorem refuses_demand {look : Tables → Option α} {otherwise : Failure} (kind : otherwise.kind = .notFound) :
    (demand look otherwise).Refuses others := by
  refine refuses_bind refuses_see fun found => ?_
  cases found with
  | none => exact refuses_missing kind
  | some row => exact refuses_pure

theorem refuses_write {insertion : Tables → Except Failure Tables}
    (kind : ∀ t f, insertion t = .error f → f.kind ∈ .notFound :: .violation :: others) :
    (write insertion).Refuses others := by
  intro l t r u refused
  rw [write, Yields] at refused
  cases wrote : insertion t with
  | error f =>
    rw [wrote] at refused
    exact refuses_refuse (kind t f wrote) _ _ _ _ refused
  | ok v =>
    rw [wrote] at refused
    exact absurd refused not_pure_refused

theorem refuses_revise {edit : Tables → Option (α × Tables)} : (revise edit).Refuses others :=
  fun _ _ _ _ refused => absurd refused not_pure_refused

theorem refuses_change {edit : Tables → Option Tables} : (change edit).Refuses others :=
  fun _ _ _ _ refused => absurd refused not_pure_refused

theorem refuses_changeOr {edit : Tables → Option Tables} {otherwise : Failure} (kind : otherwise.kind = .notFound) :
    (changeOr edit otherwise).Refuses others := by
  refine refuses_bind refuses_change fun changed => ?_
  cases changed with
  | false => exact refuses_missing kind
  | true => exact refuses_pure

theorem refuses_tally {edit : Tables → Nat × Tables} : (tally edit).Refuses others :=
  fun _ _ _ _ refused => absurd refused not_pure_refused

theorem refuses_freshIdent {c : Context} : (freshIdent c).Refuses others := by
  rintro l t r u ⟨i, m, -, refused⟩
  exact absurd refused not_pure_refused

theorem refuses_check {ps : List Request.Problem} (invalid : .invalid ∈ others) : (check ps).Refuses others := by
  unfold check
  split
  · exact refuses_pure
  · exact refuses_refuse (.tail _ (.tail _ invalid))

theorem refuses_permit {v : Option Violation} : (permit v).Refuses others := by
  cases v with
  | none => exact refuses_pure
  | some v => exact refuses_violation

end Action

section Calls

open Service.Action

variable {c : Context} {others : List FailureKind}

theorem refuses_requireModerator {space user : Ident} : (requireModerator space user).Refuses others := by
  refine refuses_bind refuses_see fun moderator => ?_
  cases moderator with
  | false => exact refuses_violation
  | true => exact refuses_pure

theorem refuses_demandScope {scope : Scope} : (demandScope scope).Refuses others := by
  cases scope with
  | space id => exact refuses_bind (refuses_demand rfl) fun _ => refuses_pure
  | channel id => exact refuses_bind (refuses_demand rfl) fun _ => refuses_pure

theorem refuses_renameSpace {actor space : Ident} {r : RenameSpace} :
    (renameSpace c actor space r).Refuses [.invalid] :=
  refuses_bind (refuses_check (.head _)) fun _ => refuses_bind refuses_openUnit fun _ =>
    refuses_bind (refuses_demand rfl) fun _ => refuses_bind refuses_requireModerator fun _ =>
      refuses_bind (refuses_changeOr rfl) fun _ => refuses_answer

theorem refuses_renameChannel {actor channel : Ident} {r : RenameChannel} :
    (renameChannel c actor channel r).Refuses [.invalid] :=
  refuses_bind (refuses_check (.head _)) fun _ => refuses_bind refuses_openUnit fun _ =>
    refuses_bind (refuses_demand rfl) fun _ => refuses_bind refuses_requireModerator fun _ =>
      refuses_bind (refuses_changeOr rfl) fun _ => refuses_answer

theorem refuses_editMessage {actor message : Ident} {r : EditMessage} :
    (editMessage c actor message r).Refuses [.invalid] := by
  refine refuses_bind (refuses_check (.head _)) fun _ => refuses_bind refuses_openUnit fun _ =>
    refuses_bind (refuses_demand rfl) fun m => ?_
  split
  · exact refuses_violation
  · exact refuses_bind (refuses_demand rfl) fun _ => refuses_bind refuses_permit fun _ =>
      refuses_bind (refuses_changeOr rfl) fun _ => refuses_answer

theorem refuses_deleteContent {kind : ContentKind} {id : Ident} : (deleteContent c kind id).Refuses others := by
  refine refuses_bind refuses_openUnit fun _ => refuses_bind (refuses_changeOr ?_) fun _ => refuses_commitUnit
  cases kind <;> rfl

theorem refuses_deleteMessageAs {actor message : Ident} : (deleteMessageAs c actor message).Refuses others := by
  refine refuses_bind refuses_openUnit fun _ => refuses_bind (refuses_demand rfl) fun m => ?_
  split
  · refine refuses_bind (refuses_demand rfl) fun channel => refuses_bind refuses_see fun moderator => ?_
    split
    · exact refuses_violation
    · exact refuses_bind refuses_change fun _ => refuses_commitUnit
  · exact refuses_bind refuses_change fun _ => refuses_commitUnit

theorem refuses_removeMember {scope : Scope} {user : Ident} : (removeMember scope user).Refuses others := by
  refine refuses_bind refuses_openUnit fun _ => refuses_bind ?_ fun _ => refuses_answer
  cases scope with
  | space id => exact refuses_bind refuses_change fun _ => refuses_bind refuses_tally fun _ => refuses_pure
  | channel id => exact refuses_change

theorem refuses_setSpaceRole {space user : Ident} {role : Role} : (setSpaceRole space user role).Refuses others := by
  refine refuses_bind refuses_openUnit fun _ => refuses_bind (refuses_demand rfl) fun _ =>
    refuses_bind refuses_revise fun revised => ?_
  cases revised with
  | none => exact refuses_refuse (.head _)
  | some m => exact refuses_answer

theorem refuses_revokeRestraint {scope : Scope} {user : Ident} : (revokeRestraint scope user).Refuses others :=
  refuses_bind refuses_openUnit fun _ => refuses_bind refuses_change fun _ => refuses_answer

theorem refuses_purgeExpired : (purgeExpired c).Refuses others :=
  refuses_bind refuses_openUnit fun _ => refuses_bind refuses_tally fun _ => refuses_answer

/-- Of all reads only that of a page has a request to check. -/
theorem refuses_of_isRead {call : Call} (reads : call.isRead = true)
    (unpaged : ∀ channel page, call ≠ .messagesInChannel channel page) : (call.perform c).Refuses others := by
  have opened {α : Type} {a : Action α} (h : a.Refuses others) : (openUnit >>= fun _ => a).Refuses others :=
    refuses_bind refuses_openUnit fun _ => h
  cases call with
  | canPost | activeRestraint | restraintsInScope => exact refuses_map (opened refuses_see)
  | isRestrained scope user time => exact refuses_map (refuses_bind (opened refuses_see) fun _ => refuses_pure)
  | getUser | channelInSpace | message => exact refuses_map (opened (refuses_demand rfl))
  | spaceMembers | channelMembers | channelsInSpace | mediaOfMessage =>
    exact refuses_map (opened (refuses_bind (refuses_demand rfl) fun _ => refuses_see))
  | spaceOverview space =>
    exact refuses_map (opened (refuses_bind (refuses_demand rfl) fun _ => refuses_bind refuses_see fun _ =>
      refuses_bind refuses_see fun _ => refuses_pure))
  | messagesInChannel channel page => exact absurd rfl (unpaged channel page)
  | _ => cases reads

end Calls

end ChatSpaces.Service
