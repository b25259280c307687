import ChatSpaces.Proofs.Service.Kinds
import ChatSpaces.Proofs.Service.Run
import ChatSpaces.Proofs.Tables.Procedure

/-!
# Invalid requests

A request is looked at before anything else is done for it: a call that is refused because its request is
invalid has drawn no identifier and changed no row. Nothing that goes wrong later is put down to the request.
-/

namespace ChatSpaces.Service

namespace Action

variable {α β : Type}

/-- If the action is refused because the request is invalid, it has drawn nothing. -/
def ValidatesFirst (a : Action α) : Prop := ∀ l t r u, a.Yields l t (.error r) u → r.kind = .invalid → l = []

theorem refuses_insertion (o : Tables.Operation) {insertion : Tables → Except Failure Tables}
    (inserts : ∀ t, o.apply t = Tables.inserted (insertion t)) :
    (write insertion).Refuses [.conflict, .storage] := by
  refine refuses_write fun t f failed => ?_
  have applied : o.apply t = .error f := by
    rw [inserts, failed]
    rfl
  have valid : f.kind ≠ .invalid := Tables.Operation.kind_ne_invalid_of_error applied
  cases kind : f.kind with
  | invalid => exact absurd kind valid
  | _ => decide

theorem Refuses.validatesFirst {a : Action α} (h : a.Refuses [.conflict, .storage]) : a.ValidatesFirst := by
  intro l t r u refused invalid
  have kind := h l t r u refused
  rw [invalid] at kind
  exact absurd kind (by decide)

theorem validatesFirst_check {ps : List Request.Problem} {k : Unit → Action β}
    (rest : (k ()).Refuses [.conflict, .storage]) : (check ps >>= k).ValidatesFirst := by
  intro l t r u refused invalid
  rcases refused_check_bind.mp refused with ⟨-, nothing, -⟩ | ⟨-, later⟩
  · exact nothing
  · exact rest.validatesFirst l t r u later invalid

theorem ValidatesFirst.map {a : Action α} (h : a.ValidatesFirst) (f : α → β) : (f <$> a).ValidatesFirst := by
  intro l t r u refused
  obtain ⟨v, refused⟩ := refused_map refused
  exact h l t r v refused

end Action

section Calls

open Service.Action

variable {c : Context}

theorem validatesFirst_createUser {r : CreateUser} : (createUser c r).ValidatesFirst :=
  validatesFirst_check <| refuses_bind refuses_freshIdent fun _ => refuses_bind refuses_openUnit fun _ =>
    refuses_bind (refuses_insertion (.insertUser _) fun _ => rfl) fun _ => refuses_answer

theorem validatesFirst_createSpace {owner : Ident} {r : CreateSpace} : (createSpace c owner r).ValidatesFirst :=
  validatesFirst_check <| refuses_bind refuses_freshIdent fun _ => refuses_bind refuses_openUnit fun _ =>
    refuses_bind (refuses_demand rfl) fun _ => refuses_bind (refuses_insertion (.insertSpace _) fun _ => rfl) fun _ =>
      refuses_bind (refuses_insertion (.insertSpaceMember _) fun _ => rfl) fun _ => refuses_answer

theorem validatesFirst_createChannel {space : Ident} {r : CreateChannel} :
    (createChannel c space r).ValidatesFirst :=
  validatesFirst_check <| refuses_bind refuses_openUnit fun _ => refuses_bind (refuses_demand rfl) fun _ =>
    refuses_bind refuses_freshIdent fun _ => refuses_bind (refuses_insertion (.insertChannel _) fun _ => rfl) fun _ =>
      refuses_answer

theorem validatesFirst_renameSpace {actor space : Ident} {r : RenameSpace} :
    (renameSpace c actor space r).ValidatesFirst :=
  validatesFirst_check <| refuses_bind refuses_openUnit fun _ => refuses_bind (refuses_demand rfl) fun _ =>
    refuses_bind refuses_requireModerator fun _ => refuses_bind (refuses_changeOr rfl) fun _ => refuses_answer

theorem validatesFirst_renameChannel {actor channel : Ident} {r : RenameChannel} :
    (renameChannel c actor channel r).ValidatesFirst :=
  validatesFirst_check <| refuses_bind refuses_openUnit fun _ => refuses_bind (refuses_demand rfl) fun _ =>
    refuses_bind refuses_requireModerator fun _ => refuses_bind (refuses_changeOr rfl) fun _ => refuses_answer

theorem validatesFirst_postMessage {channel author : Ident} {r : PostMessage} :
    (postMessage c channel author r).ValidatesFirst :=
  validatesFirst_check <| refuses_bind refuses_openUnit fun _ => refuses_bind (refuses_demand rfl) fun _ =>
    refuses_bind refuses_permit fun _ => refuses_bind refuses_freshIdent fun _ =>
      refuses_bind (refuses_insertion (.insertMessage _) fun _ => rfl) fun _ => refuses_answer

theorem validatesFirst_editMessage {actor message : Ident} {r : EditMessage} :
    (editMessage c actor message r).ValidatesFirst := by
  refine validatesFirst_check <| refuses_bind refuses_openUnit fun _ => refuses_bind (refuses_demand rfl) fun m => ?_
  split
  · exact refuses_violation
  · exact refuses_bind (refuses_demand rfl) fun _ => refuses_bind refuses_permit fun _ =>
      refuses_bind (refuses_changeOr rfl) fun _ => refuses_answer

theorem validatesFirst_attachMedia {message : Ident} {r : AttachMedia} :
    (attachMedia c message r).ValidatesFirst :=
  validatesFirst_check <| refuses_bind refuses_openUnit fun _ => refuses_bind (refuses_demand rfl) fun _ =>
    refuses_bind refuses_freshIdent fun _ => refuses_bind (refuses_insertion (.insertMedia _) fun _ => rfl) fun _ =>
      refuses_answer

theorem refuses_addSpaceMember {space user : Ident} {role : Role} :
    (addSpaceMember c space user role).Refuses [.conflict, .storage] :=
  refuses_bind refuses_openUnit fun _ => refuses_bind (refuses_demand rfl) fun _ =>
    refuses_bind (refuses_demand rfl) fun _ =>
      refuses_bind (refuses_insertion (.insertSpaceMember _) fun _ => rfl) fun _ => refuses_answer

theorem refuses_addChannelMember {channel user : Ident} :
    (addChannelMember c channel user).Refuses [.conflict, .storage] := by
  refine refuses_bind refuses_openUnit fun _ => refuses_bind (refuses_demand rfl) fun _ =>
    refuses_bind (refuses_demand rfl) fun _ => refuses_bind refuses_see fun member => ?_
  split
  · exact refuses_violation
  · exact refuses_bind (refuses_insertion (.insertChannelMember _) fun _ => rfl) fun _ => refuses_answer

theorem validatesFirst_restrain {scope : Scope} {user issuedBy : Ident} {r : Restrain} :
    (restrain c scope user issuedBy r).ValidatesFirst :=
  validatesFirst_check <| refuses_bind refuses_openUnit fun _ => refuses_bind refuses_demandScope fun _ =>
    refuses_bind (refuses_demand rfl) fun _ =>
      refuses_bind (refuses_insertion (.putRestraint _) fun _ => rfl) fun _ => refuses_answer

theorem validatesFirst_perform (call : Call) (c : Context) : (call.perform c).ValidatesFirst := by
  have opened {α : Type} {a : Action α} (h : a.Refuses [.conflict, .storage]) :
      (openUnit >>= fun _ => a).Refuses [.conflict, .storage] := refuses_bind refuses_openUnit fun _ => h
  cases call with
  | createUser r => exact validatesFirst_createUser.map _
  | createSpace owner r => exact validatesFirst_createSpace.map _
  | createChannel space r => exact validatesFirst_createChannel.map _
  | renameSpace actor space r => exact validatesFirst_renameSpace.map _
  | renameChannel actor channel r => exact validatesFirst_renameChannel.map _
  | postMessage channel author r => exact validatesFirst_postMessage.map _
  | editMessage actor message r => exact validatesFirst_editMessage.map _
  | attachMedia message r => exact validatesFirst_attachMedia.map _
  | restrain scope user issuedBy r => exact validatesFirst_restrain.map _
  | messagesInChannel channel page =>
    exact (validatesFirst_check <| opened <| refuses_bind (refuses_demand rfl) fun _ => refuses_see).map _
  | deleteContent kind id => exact refuses_deleteContent.validatesFirst.map _
  | deleteMessageAs actor message => exact refuses_deleteMessageAs.validatesFirst.map _
  | addSpaceMember space user role => exact refuses_addSpaceMember.validatesFirst.map _
  | addChannelMember channel user => exact refuses_addChannelMember.validatesFirst.map _
  | removeMember scope user => exact refuses_removeMember.validatesFirst.map _
  | setSpaceRole space user role => exact refuses_setSpaceRole.validatesFirst.map _
  | revokeRestraint scope user => exact refuses_revokeRestraint.validatesFirst.map _
  | purgeExpired => exact refuses_purgeExpired.validatesFirst.map _
  | _ => exact (refuses_of_isRead rfl fun _ _ => Call.noConfusion).validatesFirst

end Calls

/-- A call that is refused because its request is invalid changes nothing, not even the generator. -/
theorem Deployment.call_of_invalid {d : Deployment} {c : Call} {r : Refusal}
    (refused : (d.call c).1 = .error r) (invalid : r.kind = .invalid) : (d.call c).2 = d := by
  obtain ⟨u, yields, left⟩ := d.call_spec c
  rw [refused] at yields left
  have nothing := validatesFirst_perform c d.context _ _ _ _ yields invalid
  have undrawn : d.readingsOfCall c = [] := by
    rw [← List.length_eq_zero_iff, ← Generator.length_draws, nothing, List.length_nil]
  rw [left, undrawn]
  rfl

end ChatSpaces.Service
