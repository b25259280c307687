import ChatSpaces.Proofs.Service.Drawing
import ChatSpaces.Proofs.Service.Kinds
import ChatSpaces.Proofs.Service.Posting
import ChatSpaces.Proofs.Service.Reading

/-!
# What calls are refused for

Whatever an insertion asks for, the call has found it before: the store never has to object to a row whose parents
are missing, and what comes after the checks of a call succeeds. A record is there twice only if its user name is
taken, as long as the identifiers that are drawn are new.
-/

namespace ChatSpaces.Service

/-- The call asks, with nothing else against it, for a user name that is taken. -/
inductive NameTaken (t : Tables) : Call → String → Prop
  | createUser {r x} (valid : r.problems = []) (row : x ∈ t.users.rows) (same : x.username = r.username) :
      NameTaken t (.createUser r) ("username " ++ r.username)

/-- The store did not have to refuse the call, and a record is there twice only because an identifier is in use that
was drawn for it, or because of a user name. -/
structure Foreseen (t : Tables) (call : Call) (drawn : List Ident) (r : Refusal) : Prop where
  kind : r.kind ≠ .storage
  duplicate : ∀ record, r = .failed (.duplicate record) → (∃ i ∈ drawn, t.Uses i) ∨ NameTaken t call record

namespace Foreseen

variable {t : Tables} {call : Call} {drawn : List Ident} {r : Refusal}

theorem of_apart (kind : r.kind ≠ .storage) (apart : ∀ record, r ≠ .failed (.duplicate record)) :
    Foreseen t call drawn r :=
  ⟨kind, fun record same => absurd same (apart record)⟩

theorem of_kind (kind : r.kind ∈ [.notFound, .violation, .invalid]) : Foreseen t call drawn r := by
  apply of_apart
  · intro storage
    rw [storage] at kind
    exact absurd kind (by decide)
  · intro record same
    have conflict : r.kind = .conflict := by
      rw [same]
      rfl
    rw [conflict] at kind
    exact absurd kind (by decide)

theorem of_missing {f : Failure} (kind : f.kind = .notFound) : Foreseen t call drawn (.failed f) := by
  apply of_kind
  rw [Refusal.kind, kind]
  exact .head _

theorem of_problems {ps : List Request.Problem} : Foreseen t call drawn (Request.refusal ps) :=
  of_kind (.tail _ (.tail _ (.head _)))

theorem of_violation {v : Violation} : Foreseen t call drawn (.failed (.violation v)) :=
  of_kind (.tail _ (.head _))

theorem of_spaceMember {space user : Ident} : Foreseen t call drawn (.failed (.alreadySpaceMember space user)) :=
  of_apart (by rintro ⟨⟩) (by rintro record ⟨⟩)

theorem of_channelMember {channel user : Ident} :
    Foreseen t call drawn (.failed (.alreadyChannelMember channel user)) :=
  of_apart (by rintro ⟨⟩) (by rintro record ⟨⟩)

theorem of_used {i : Ident} {rest : List Ident} {record : String} (used : t.Uses i) :
    Foreseen t call (i :: rest) (.failed (.duplicate record)) :=
  ⟨nofun, fun _ _ => .inl ⟨i, .head _, used⟩⟩

end Foreseen

section Writing

open Service.Action

variable {c : Context} {l : List Ident} {t u : Tables} {r : Refusal}

theorem contains_of_space? {id : Ident} {s : Space} (live : t.space? .live id = some s) :
    t.spaces.contains id = true := Table.contains_of_get? (Option.filter_eq_some_iff.mp live).1

theorem createUser_refused {request : CreateUser} (refused : (createUser c request).Yields l t (.error r) u) :
    (request.problems ≠ [] ∧ r = Request.refusal request.problems) ∨
      ∃ i m, l = i :: m ∧ request.problems = [] ∧
        ((t.users.contains i = true ∧ r = .failed (.duplicate ("user " ++ i.toText))) ∨
          ((∃ x ∈ t.users.rows, x.username = request.username) ∧
            r = .failed (.duplicate ("username " ++ request.username)))) := by
  simp only [createUser, refused_check_bind, yields_freshIdent_bind, yields_openUnit_bind, refused_write_bind,
    yields_commitUnit_bind, not_pure_refused, and_false,
    exists_false, or_false] at refused
  rcases refused with ⟨problems, -, rfl, -⟩ | ⟨valid, i, m, rfl, f, failed, -, rfl, -⟩
  · exact .inl ⟨problems, rfl⟩
  · refine .inr ⟨i, m, rfl, valid, ?_⟩
    rcases Tables.insertUser_eq_error_iff.mp failed with ⟨there, rfl⟩ | ⟨-, taken, rfl⟩
    · exact .inl ⟨there, rfl⟩
    · exact .inr ⟨taken, rfl⟩

theorem name_free_of_effect {request : CreateUser} {a : Answer} (effect : Effect c t (.createUser request) l a u) :
    ∀ x ∈ t.users.rows, x.username ≠ request.username := by
  cases effect with
  | look reads => cases reads
  | createUser _ made ok =>
    subst made
    exact (Tables.insertUser_eq_ok_iff.mp ok).2.1

theorem foreseen_createUser {request : CreateUser} (refused : (createUser c request).Yields l t (.error r) u) :
    Foreseen t (.createUser request) l r := by
  rcases createUser_refused refused with
    ⟨-, rfl⟩ | ⟨i, m, rfl, valid, ⟨there, rfl⟩ | ⟨⟨x, row, same⟩, rfl⟩⟩
  · exact .of_problems
  · exact .of_used (.inl there)
  · refine ⟨nofun, ?_⟩
    rintro _ ⟨⟩
    exact .inr (.createUser valid row same)

theorem foreseen_createSpace {owner : Ident} {request : CreateSpace}
    (refused : (createSpace c owner request).Yields l t (.error r) u) :
    Foreseen t (.createSpace owner request) l r := by
  simp only [createSpace, demandUser, refused_check_bind, yields_freshIdent_bind, yields_openUnit_bind,
    refused_demand_bind, refused_write_bind, yields_commitUnit_bind, not_pure_refused, and_false,
    exists_false, or_false] at refused
  rcases refused with ⟨-, -, rfl, -⟩ | ⟨-, i, m, rfl, ⟨-, -, rfl, -⟩ | ⟨x, found, inserted⟩⟩
  · exact .of_problems
  · exact .of_missing rfl
  · have known : t.users.contains owner = true := Table.contains_of_get? found
    rcases inserted with ⟨f, failed, -, rfl, -⟩ | ⟨v, ok, f, failed, -, rfl, -⟩
    · simp only [Tables.insertSpace_eq_error_iff, known, Bool.true_eq_false, false_and, true_and, false_or] at failed
      rw [failed.2]
      exact .of_used (.inr (.inl failed.1))
    · obtain ⟨-, -, rfl⟩ := Tables.insertSpace_eq_ok_iff.mp ok
      have there (s : Space) : (t.spaces.insert i s).contains i = true := Table.contains_insert.mpr (.inl rfl)
      simp only [Tables.insertSpaceMember_eq_error_iff, known, there, Bool.true_eq_false, false_and, true_and,
        false_or] at failed
      rw [failed.2]
      exact .of_spaceMember

theorem foreseen_createChannel {space : Ident} {request : CreateChannel}
    (refused : (createChannel c space request).Yields l t (.error r) u) :
    Foreseen t (.createChannel space request) l r := by
  simp only [createChannel, demandSpace, refused_check_bind, yields_openUnit_bind, refused_demand_bind,
    yields_freshIdent_bind, refused_write_bind, yields_commitUnit_bind, not_pure_refused, and_false,
    exists_false, or_false] at refused
  rcases refused with ⟨-, -, rfl, -⟩ | ⟨-, ⟨-, -, rfl, -⟩ | ⟨s, live, i, m, rfl, f, failed, -, rfl, -⟩⟩
  · exact .of_problems
  · exact .of_missing rfl
  · simp only [Tables.insertChannel_eq_error_iff, contains_of_space? live, Bool.true_eq_false, false_and, true_and,
      false_or] at failed
    rw [failed.2]
    exact .of_used (.inr (.inr (.inl failed.1)))

theorem foreseen_postMessage (built : t.Built) {channel author : Ident} {request : PostMessage}
    (refused : (postMessage c channel author request).Yields l t (.error r) u) :
    Foreseen t (.postMessage channel author request) l r := by
  simp only [postMessage, refused_check_bind, yields_openUnit_bind, refused_demand_bind, refused_permit_bind,
    yields_freshIdent_bind, refused_write_bind, yields_commitUnit_bind, not_pure_refused, and_false,
    exists_false, or_false] at refused
  rcases refused with ⟨-, -, rfl, -⟩ | ⟨-, ⟨-, -, rfl, -⟩ |
    ⟨v, verdict, ⟨_, -, -, rfl, -⟩ | ⟨rfl, i, m, rfl, f, failed, -, rfl, -⟩⟩⟩
  · exact .of_problems
  · exact .of_missing rfl
  · exact .of_violation
  · have may := (denial?_eq_none_iff built.keyed built.linked).mp (verdict?_eq_some_none_iff.mp verdict)
    obtain ⟨there, known⟩ := parents_of_mayPost built.keyed built.linked may
    simp only [Tables.insertMessage_eq_error_iff, there, known, Bool.true_eq_false, false_and, true_and,
      false_or] at failed
    rw [failed.2]
    exact .of_used (.inr (.inr (.inr (.inl failed.1))))

theorem foreseen_attachMedia {message : Ident} {request : AttachMedia}
    (refused : (attachMedia c message request).Yields l t (.error r) u) :
    Foreseen t (.attachMedia message request) l r := by
  simp only [attachMedia, demandMessage, refused_check_bind, yields_openUnit_bind, refused_demand_bind,
    yields_freshIdent_bind, refused_write_bind, yields_commitUnit_bind, not_pure_refused, and_false,
    exists_false, or_false] at refused
  rcases refused with ⟨-, -, rfl, -⟩ | ⟨-, ⟨-, -, rfl, -⟩ | ⟨m, live, i, l, rfl, f, failed, -, rfl, -⟩⟩
  · exact .of_problems
  · exact .of_missing rfl
  · have there : t.messages.contains message = true :=
      Table.contains_of_get? (Tables.message?_live_eq_some_iff.mp live).1
    simp only [Tables.insertMedia_eq_error_iff, there, Bool.true_eq_false, false_and, true_and, false_or] at failed
    rw [failed.2]
    exact .of_used (.inr (.inr (.inr (.inr failed.1))))

theorem foreseen_addSpaceMember {space user : Ident} {role : Role}
    (refused : (addSpaceMember c space user role).Yields l t (.error r) u) :
    Foreseen t (.addSpaceMember space user role) l r := by
  simp only [addSpaceMember, demandSpace, demandUser, yields_openUnit_bind, refused_demand_bind, refused_write_bind,
    yields_commitUnit_bind, not_pure_refused, and_false,
    exists_false, or_false] at refused
  rcases refused with ⟨-, -, rfl, -⟩ | ⟨s, live, ⟨-, -, rfl, -⟩ | ⟨x, found, f, failed, -, rfl, -⟩⟩
  · exact .of_missing rfl
  · exact .of_missing rfl
  · have known : t.users.contains user = true := Table.contains_of_get? found
    simp only [Tables.insertSpaceMember_eq_error_iff, known, contains_of_space? live, Bool.true_eq_false, false_and,
      true_and, false_or] at failed
    rw [failed.2]
    exact .of_spaceMember

theorem foreseen_addChannelMember {channel user : Ident}
    (refused : (addChannelMember c channel user).Yields l t (.error r) u) :
    Foreseen t (.addChannelMember channel user) l r := by
  simp only [addChannelMember, demandChannel, demandUser, yields_openUnit_bind, refused_demand_bind,
    yields_see_bind] at refused
  rcases refused with ⟨-, -, rfl, -⟩ | ⟨ch, live, ⟨-, -, rfl, -⟩ | ⟨x, found, inside⟩⟩
  · exact .of_missing rfl
  · exact .of_missing rfl
  split at inside
  · obtain ⟨-, rfl, -⟩ := refused_fail_bind.mp inside
    exact .of_violation
  · simp only [refused_write_bind, yields_commitUnit_bind, not_pure_refused, and_false, exists_false, or_false]
      at inside
    obtain ⟨f, failed, -, rfl, -⟩ := inside
    have known : t.users.contains user = true := Table.contains_of_get? found
    have there : t.channels.contains channel = true := Table.contains_of_get? (channel?_live_eq_some_iff.mp live).1
    simp only [Tables.insertChannelMember_eq_error_iff, known, there, Bool.true_eq_false, false_and, true_and,
      false_or] at failed
    rw [failed.2]
    exact .of_channelMember

theorem foreseen_restrain {scope : Scope} {user issuedBy : Ident} {request : Restrain}
    (refused : (restrain c scope user issuedBy request).Yields l t (.error r) u) :
    Foreseen t (.restrain scope user issuedBy request) l r := by
  simp only [restrain, demandUser, refused_check_bind, yields_openUnit_bind, refused_demandScope_bind,
    refused_demand_bind, refused_write_bind, yields_commitUnit_bind, not_pure_refused, and_false,
    exists_false, or_false] at refused
  rcases refused with ⟨-, -, rfl, -⟩ | ⟨-, ⟨-, -, rfl, -⟩ |
    ⟨-, ⟨-, -, rfl, -⟩ | ⟨x, found, f, failed, -, rfl, -⟩⟩⟩
  · exact .of_problems
  · exact .of_missing (by cases scope <;> rfl)
  · exact .of_missing rfl
  · have known : t.users.contains user = true := Table.contains_of_get? found
    simp only [Tables.putRestraint_eq_error_iff, known, Bool.true_eq_false, false_and] at failed

theorem foreseen_of_refused (built : t.Built) {call : Call} (refused : (call.perform c).Yields l t (.error r) u) :
    Foreseen t call l r := by
  have plain {a : Action Answer} (h : a.Refuses [.invalid]) (refused : a.Yields l t (.error r) u) :
      Foreseen t call l r := .of_kind (h l t r u refused)
  cases call with
  | createUser request =>
    obtain ⟨v, refused⟩ := refused_map refused
    exact foreseen_createUser refused
  | createSpace owner request =>
    obtain ⟨v, refused⟩ := refused_map refused
    exact foreseen_createSpace refused
  | createChannel space request =>
    obtain ⟨v, refused⟩ := refused_map refused
    exact foreseen_createChannel refused
  | postMessage channel author request =>
    obtain ⟨v, refused⟩ := refused_map refused
    exact foreseen_postMessage built refused
  | attachMedia message request =>
    obtain ⟨v, refused⟩ := refused_map refused
    exact foreseen_attachMedia refused
  | addSpaceMember space user role =>
    obtain ⟨v, refused⟩ := refused_map refused
    exact foreseen_addSpaceMember refused
  | addChannelMember channel user =>
    obtain ⟨v, refused⟩ := refused_map refused
    exact foreseen_addChannelMember refused
  | restrain scope user issuedBy request =>
    obtain ⟨v, refused⟩ := refused_map refused
    exact foreseen_restrain refused
  | renameSpace actor space request => exact plain (refuses_map refuses_renameSpace) refused
  | renameChannel actor channel request => exact plain (refuses_map refuses_renameChannel) refused
  | editMessage actor message request => exact plain (refuses_map refuses_editMessage) refused
  | deleteContent kind id => exact plain (refuses_map refuses_deleteContent) refused
  | deleteMessageAs actor message => exact plain (refuses_map refuses_deleteMessageAs) refused
  | removeMember scope user => exact plain (refuses_map refuses_removeMember) refused
  | setSpaceRole space user role => exact plain (refuses_map refuses_setSpaceRole) refused
  | revokeRestraint scope user => exact plain (refuses_map refuses_revokeRestraint) refused
  | purgeExpired => exact plain (refuses_map refuses_purgeExpired) refused
  | messagesInChannel channel page =>
    exact plain (refuses_map (refuses_bind (refuses_check (.head _)) fun _ => refuses_bind refuses_openUnit fun _ =>
      refuses_bind (refuses_demand rfl) fun _ => refuses_see)) refused
  | _ => exact plain (refuses_of_isRead rfl fun _ _ => Call.noConfusion) refused

end Writing

section Fallback

open Service.Action
open Time (Instant)

variable {c : Context} {l : List Ident} {t u : Tables} {r : Refusal}

theorem updateSpace?_ne_none (keyed : t.Keyed) {space : Ident} {s : Space} (live : t.space? .live space = some s)
    (name description : String) (time : Instant) :
    t.updateSpace? { s with name := name, description := description, updatedAt := time } ≠ none := by
  obtain ⟨found, admitted⟩ := Option.filter_eq_some_iff.mp live
  have own : s.id = space := keyed.spaces _ _ found
  have stays : s.deleted = false := by simpa using admitted
  exact Option.ne_none_iff_exists'.mpr ⟨_, Tables.updateSpace?_eq_some_iff.mpr ⟨s, own ▸ found, stays, rfl⟩⟩

theorem updateChannel?_ne_none (keyed : t.Keyed) {channel : Ident} {ch : Channel} (live : LiveChannel t channel ch)
    (name : String) (time : Instant) :
    t.updateChannel? { ch with name := name, updatedAt := time } ≠ none := by
  obtain ⟨found, stays⟩ := live
  have own : ch.id = channel := keyed.channels _ _ found
  exact Option.ne_none_iff_exists'.mpr ⟨_, Tables.updateChannel?_eq_some_iff.mpr ⟨ch, own ▸ found, stays, rfl⟩⟩

theorem updateMessage?_ne_none (keyed : t.Keyed) {message : Ident} {m : Message}
    (live : t.message? .live message = some m) (body : String) (time : Instant) :
    t.updateMessage? (m.edit body time) ≠ none := by
  obtain ⟨found, stays, -⟩ := Tables.message?_live_eq_some_iff.mp live
  have own : m.id = message := keyed.messages _ _ found
  exact Option.ne_none_iff_exists'.mpr ⟨_, Tables.updateMessage?_eq_some_iff.mpr ⟨m, own ▸ found, stays, rfl⟩⟩

theorem verdict?_ne_none {message : Ident} {m : Message} (live : t.message? .live message = some m) (c : Context)
    (user : Ident) : verdict? c t m.channel user ≠ none := by
  obtain ⟨-, -, opened⟩ := Tables.message?_live_eq_some_iff.mp live
  obtain ⟨j, joined, -⟩ := Tables.openChannel_iff.mp opened
  simp [verdict?, postingContext?, joined]

theorem channel?_all_ne_none {message : Ident} {m : Message} (live : t.message? .live message = some m) :
    t.channel? .all m.channel ≠ none := by
  obtain ⟨-, -, ch, s, found, -⟩ := Tables.message?_live_eq_some_iff.mp live
  rw [Tables.channel?_all, found]
  exact Option.some_ne_none ch

/-- What comes after the checks of a call succeeds on whatever has passed them: the updates of a space, a channel and a
message that have been found, the verdict of the gate on the channel of a message, and a look at that channel. -/
structure Unfailing (c : Context) (t : Tables) : Prop where
  updateSpace : ∀ {space s}, t.space? .live space = some s → ∀ name description time,
    t.updateSpace? { s with name := name, description := description, updatedAt := time } ≠ none
  updateChannel : ∀ {channel j}, (t.channelInSpace? .live channel).filter (·.spaceIsLive) = some j → ∀ name time,
    t.updateChannel? { j.channel with name := name, updatedAt := time } ≠ none
  updateMessage : ∀ {message m}, t.message? .live message = some m → ∀ body time,
    t.updateMessage? (m.edit body time) ≠ none
  verdict : ∀ {message m}, t.message? .live message = some m → ∀ user, verdict? c t m.channel user ≠ none
  channel : ∀ {message m}, t.message? .live message = some m → t.channel? .all m.channel ≠ none

theorem liveChannel_of_joined {channel : Ident} {j : ChannelInSpace}
    (joined : (t.channelInSpace? .live channel).filter (·.spaceIsLive) = some j) : LiveChannel t channel j.channel := by
  obtain ⟨found, -, stays⟩ := Tables.channelInSpace?_live_eq_some_iff.mp (Option.filter_eq_some_iff.mp joined).1
  exact ⟨found, stays⟩

theorem unfailing (keyed : t.Keyed) (c : Context) : Unfailing c t where
  updateSpace := updateSpace?_ne_none keyed
  updateChannel joined := updateChannel?_ne_none keyed (liveChannel_of_joined joined)
  updateMessage := updateMessage?_ne_none keyed
  verdict live := verdict?_ne_none live c
  channel := channel?_all_ne_none

def Call.fallsBack : Call → Bool
  | .renameSpace .. | .renameChannel .. | .editMessage .. | .deleteMessageAs .. => true
  | _ => false

inductive Missed (t : Tables) : Call → Failure → Prop
  | renameSpace {actor space r} (gone : t.space? .live space = none) :
      Missed t (.renameSpace actor space r) (.spaceNotFound space)
  | renameChannel {actor channel r} (gone : (t.channelInSpace? .live channel).filter (·.spaceIsLive) = none) :
      Missed t (.renameChannel actor channel r) (.channelNotFound channel)
  | editMessage {actor message r} (gone : t.message? .live message = none) :
      Missed t (.editMessage actor message r) (.messageNotFound message)
  | deleteMessageAs {actor message} (gone : t.message? .live message = none) :
      Missed t (.deleteMessageAs actor message) (.messageNotFound message)

variable {f : Failure}

theorem missed_renameSpace (safe : Unfailing c t) {actor space : Ident} {request : RenameSpace}
    (refused : (renameSpace c actor space request).Yields l t (.error (.failed f)) u) (missing : f.kind = .notFound) :
    Missed t (.renameSpace actor space request) f := by
  simp only [renameSpace, demandSpace, refused_check_bind, yields_openUnit_bind, refused_demand_bind,
    refused_requireModerator_bind, refused_changeOr_bind, yields_commitUnit_bind, not_pure_refused, and_false,
    exists_false, or_false] at refused
  rcases refused with ⟨-, -, same, -⟩ | ⟨-, ⟨gone, -, same, -⟩ | ⟨s, live, ⟨-, -, same, -⟩ | ⟨-, failed, -⟩⟩⟩
  · cases same
  · cases same
    exact .renameSpace gone
  · cases same
    cases missing
  · exact absurd failed (safe.updateSpace live _ _ _)

theorem missed_renameChannel (safe : Unfailing c t) {actor channel : Ident} {request : RenameChannel}
    (refused : (renameChannel c actor channel request).Yields l t (.error (.failed f)) u)
    (missing : f.kind = .notFound) : Missed t (.renameChannel actor channel request) f := by
  simp only [renameChannel, demandOpenChannel, refused_check_bind, yields_openUnit_bind, refused_demand_bind,
    refused_requireModerator_bind, refused_changeOr_bind, yields_commitUnit_bind, not_pure_refused, and_false,
    exists_false, or_false] at refused
  rcases refused with ⟨-, -, same, -⟩ | ⟨-, ⟨gone, -, same, -⟩ | ⟨j, live, ⟨-, -, same, -⟩ | ⟨-, failed, -⟩⟩⟩
  · cases same
  · cases same
    exact .renameChannel gone
  · cases same
    cases missing
  · exact absurd failed (safe.updateChannel live _ _)

theorem missed_editMessage (safe : Unfailing c t) {actor message : Ident} {request : EditMessage}
    (refused : (editMessage c actor message request).Yields l t (.error (.failed f)) u)
    (missing : f.kind = .notFound) : Missed t (.editMessage actor message request) f := by
  simp only [editMessage, demandMessage, refused_check_bind, yields_openUnit_bind, refused_demand_bind] at refused
  rcases refused with ⟨-, -, same, -⟩ | ⟨-, ⟨gone, -, same, -⟩ | ⟨m, live, inside⟩⟩
  · cases same
  · cases same
    exact .editMessage gone
  split at inside
  · obtain ⟨-, same, -⟩ := refused_fail_bind.mp inside
    cases same
    cases missing
  · simp only [refused_demand_bind, refused_permit_bind, refused_changeOr_bind, yields_commitUnit_bind,
      not_pure_refused, and_false, exists_false, or_false] at inside
    rcases inside with ⟨none, -⟩ | ⟨v, -, ⟨_, -, -, same, -⟩ | ⟨-, failed, -⟩⟩
    · exact absurd none (safe.verdict live actor)
    · cases same
      cases missing
    · exact absurd failed (safe.updateMessage live _ _)

theorem missed_deleteMessageAs (safe : Unfailing c t) {actor message : Ident}
    (refused : (deleteMessageAs c actor message).Yields l t (.error (.failed f)) u)
    (missing : f.kind = .notFound) : Missed t (.deleteMessageAs actor message) f := by
  simp only [deleteMessageAs, demandMessage, yields_openUnit_bind, refused_demand_bind] at refused
  rcases refused with ⟨gone, -, same, -⟩ | ⟨m, live, inside⟩
  · cases same
    exact .deleteMessageAs gone
  split at inside
  · simp only [refused_demand_bind, yields_see_bind] at inside
    rcases inside with ⟨none, -⟩ | ⟨ch, -, inside⟩
    · exact absurd none (safe.channel live)
    split at inside
    · obtain ⟨-, same, -⟩ := refused_fail_bind.mp inside
      cases same
      cases missing
    · simp only [yields_change_bind, not_commitUnit_refused] at inside
  · simp only [yields_change_bind, not_commitUnit_refused] at inside

theorem missed_of_refused (safe : Unfailing c t) {call : Call} (falls : call.fallsBack = true)
    (refused : (call.perform c).Yields l t (.error (.failed f)) u) (missing : f.kind = .notFound) :
    Missed t call f := by
  cases call with
  | renameSpace actor space request =>
    obtain ⟨v, refused⟩ := refused_map refused
    exact missed_renameSpace safe refused missing
  | renameChannel actor channel request =>
    obtain ⟨v, refused⟩ := refused_map refused
    exact missed_renameChannel safe refused missing
  | editMessage actor message request =>
    obtain ⟨v, refused⟩ := refused_map refused
    exact missed_editMessage safe refused missing
  | deleteMessageAs actor message =>
    obtain ⟨v, refused⟩ := refused_map refused
    exact missed_deleteMessageAs safe refused missing
  | _ => cases falls

end Fallback

namespace Deployment

variable {d : Deployment} {c : Call}

theorem call_of_nameTaken {record : String} (taken : NameTaken d.tables c record)
    (fresh : ∀ i ∈ d.ids.draws (d.readingsOfCall c), ¬ d.tables.Uses i) :
    (d.call c).1 = .error (.failed (.duplicate record)) := by
  cases taken with
  | @createUser r x valid row same =>
    cases answered : (d.call (.createUser r)).1 with
    | ok a => exact absurd same (name_free_of_effect (effect_of_answered answered) x row)
    | error s =>
      obtain ⟨u, refused⟩ := refusal_of_call answered
      obtain ⟨v, refused⟩ := Action.refused_map refused
      rcases createUser_refused refused with ⟨problems, -⟩ | ⟨i, m, drawn, -, ⟨there, -⟩ | ⟨-, rfl⟩⟩
      · exact absurd valid problems
      · exact absurd (.inl there) (fresh i (drawn ▸ .head m))
      · rfl

/-- Whatever calls have made of empty tables, and whatever is called with whatever arguments: a refusal is never the
fault of the store; nothing fails after the checks of a call, and what is missing is what the call has named; and a
record is there twice exactly if a user is given a name that is taken, as long as all identifiers come from one
generator that stays within its bits. -/
theorem refusals_are_foreseen (served : Served d.tables) (c : Call) :
    (∀ r, (d.call c).1 = .error r → r.kind ≠ .storage) ∧
      Unfailing d.context d.tables ∧
      (c.fallsBack = true → ∀ f, (d.call c).1 = .error (.failed f) → f.kind = .notFound → Missed d.tables c f) ∧
      (d.WithinBits c →
        ∀ record, (d.call c).1 = .error (.failed (.duplicate record)) ↔ NameTaken d.tables c record) := by
  have safe : Unfailing d.context d.tables := unfailing served.built.keyed d.context
  have foreseen (r) (refused : (d.call c).1 = .error r) :
      Foreseen d.tables c (d.ids.draws (d.readingsOfCall c)) r := by
    obtain ⟨u, yields⟩ := refusal_of_call refused
    exact foreseen_of_refused served.built yields
  refine ⟨fun r refused => (foreseen r refused).kind, safe, ?_, ?_⟩
  · intro falls f refused missing
    obtain ⟨u, yields⟩ := refusal_of_call refused
    exact missed_of_refused safe falls yields missing
  · intro within record
    constructor
    · intro refused
      rcases (foreseen _ refused).duplicate record rfl with ⟨i, drawn, used⟩ | taken
      · exact absurd used (within.not_uses drawn)
      · exact taken
    · exact fun taken => call_of_nameTaken taken fun i drawn => within.not_uses drawn

/-- The second user of the name ann. -/
theorem refusals_are_foreseen_ann :
    let ann : Call := .createUser ⟨"ann", none⟩
    ((blank.after [.call ann]).call ann).1 = .error (.failed (.duplicate "username ann")) := by
  intro ann
  obtain ⟨-, -, -, duplicate⟩ := refusals_are_foreseen (d := blank.after [.call ann]) (served_after .empty _) ann
  have within : (blank.after [.call ann]).WithinBits ann :=
    ⟨⟨.default, .new 0⟩, ⟨0, .ofMillis 0, false⟩, [.call ann], rfl, by decide, by decide, by decide⟩
  refine (duplicate within _).mpr ?_
  exact .createUser (x := ⟨⟨1⟩, "ann", "", false, .ofMillis 0⟩) (by decide) (by decide) rfl

end Deployment

end ChatSpaces.Service
