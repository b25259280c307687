import ChatSpaces.Proofs.Service.Outcome
import ChatSpaces.Proofs.Tables.Integrity
import ChatSpaces.Service.Call

/-!
# What an answered call does

`Effect` says, call by call, which conditions an answered call has found, which identifier it drew and what
it made of the tables. Everything that holds after a run of calls is proved from it: a call that is refused
leaves nothing behind.
-/

namespace ChatSpaces.Service

open Service.Action
open Tables (Change)

def scopeIsLive (t : Tables) : Scope → Bool
  | .space id => (t.space? .live id).isSome
  | .channel id => (t.channel? .live id).isSome

def scopeNotFound : Scope → Failure
  | .space id => .spaceNotFound id
  | .channel id => .channelNotFound id

/-- The context of a call, the tables that it starts from, the call, the identifiers that it draws, its
answer, and the tables that it leaves. -/
inductive Effect (c : Context) (t : Tables) : Call → List Ident → Answer → Tables → Prop
  | look {call a} (reads : call.isRead = true) : Effect c t call [] a t
  | createUser {r i x u} (valid : r.problems = [])
      (made : x = ⟨i, r.username, r.displayName.getD "", false, c.now⟩) (ok : t.insertUser x = .ok u) :
      Effect c t (.createUser r) [i] (.one .user x) u
  | createSpace {owner r i x v u} (valid : r.problems = [])
      (made : x = ⟨i, r.name, r.description.getD "", owner, false, c.now, c.now⟩)
      (ok : t.insertSpace x = .ok v) (joined : v.insertSpaceMember ⟨i, owner, .owner, c.now⟩ = .ok u) :
      Effect c t (.createSpace owner r) [i] (.one .space x) u
  | createChannel {space s r i x u} (valid : r.problems = []) (live : t.space? .live space = some s)
      (made : x = ⟨i, space, r.name, false, c.now, c.now⟩) (ok : t.insertChannel x = .ok u) :
      Effect c t (.createChannel space r) [i] (.one .channel x) u
  | renameSpace {actor space s r x u} (valid : r.problems = []) (live : t.space? .live space = some s)
      (moderator : isModerator t space actor = true)
      (made : x = { s with
        name := r.name, description := r.description.getD s.description, updatedAt := c.now })
      (ok : t.updateSpace? x = some u) : Effect c t (.renameSpace actor space r) [] (.one .space x) u
  | renameChannel {actor channel j r x u} (valid : r.problems = [])
      (live : (t.channelInSpace? .live channel).filter (·.spaceIsLive) = some j)
      (moderator : isModerator t j.space.id actor = true)
      (made : x = { j.channel with name := r.name, updatedAt := c.now })
      (ok : t.updateChannel? x = some u) : Effect c t (.renameChannel actor channel r) [] (.one .channel x) u
  | deleteContent {kind id u} (ok : kind.delete? t id c.now = some u) :
      Effect c t (.deleteContent kind id) [] .done u
  | postMessage {channel author r i x u} (valid : r.problems = [])
      (allowed : verdict? c t channel author = some none)
      (made : x = ⟨i, channel, author, r.body, false, c.now, c.now⟩) (ok : t.insertMessage x = .ok u) :
      Effect c t (.postMessage channel author r) [i] (.one .message x) u
  | editMessage {actor message m r x u} (valid : r.problems = [])
      (live : t.message? .live message = some m) (author : m.author = actor)
      (allowed : verdict? c t m.channel actor = some none) (made : x = m.edit r.body c.now)
      (ok : t.updateMessage? x = some u) : Effect c t (.editMessage actor message r) [] (.one .message x) u
  | attachMedia {message m r i x u} (valid : r.problems = []) (live : t.message? .live message = some m)
      (made : x = ⟨i, message, r.storageRef, r.contentType, c.now⟩) (ok : t.insertMedia x = .ok u) :
      Effect c t (.attachMedia message r) [i] (.one .media x) u
  | deleteMessageAs {actor message m u} (live : t.message? .live message = some m)
      (may : m.author = actor ∨
        ∃ ch, t.channel? .all m.channel = some ch ∧ isModerator t ch.space actor = true)
      (ok : t.deleteMessage? message c.now = some u) : Effect c t (.deleteMessageAs actor message) [] .done u
  | addSpaceMember {space s user role x u} (live : t.space? .live space = some s)
      (made : x = ⟨space, user, role, c.now⟩) (ok : t.insertSpaceMember x = .ok u) :
      Effect c t (.addSpaceMember space user role) [] (.one .spaceMember x) u
  | addChannelMember {channel ch user x u} (live : t.channel? .live channel = some ch)
      (member : (t.spaceMember? ch.space user).isSome = true) (made : x = ⟨channel, user, c.now⟩)
      (ok : t.insertChannelMember x = .ok u) :
      Effect c t (.addChannelMember channel user) [] (.one .channelMember x) u
  | leaveSpace {space user} :
      Effect c t (.removeMember (.space space) user) [] (.flag (t.removeSpaceMember? space user).isSome)
        (((t.removeSpaceMember? space user).getD t).removeChannelMembersIn space user).2
  | leaveChannel {channel user} :
      Effect c t (.removeMember (.channel channel) user) []
        (.flag (t.removeChannelMember? channel user).isSome)
        ((t.removeChannelMember? channel user).getD t)
  | setSpaceRole {space s user role m u} (live : t.space? .live space = some s)
      (ok : t.setRole? space user role = some (m, u)) :
      Effect c t (.setSpaceRole space user role) [] (.one .spaceMember m) u
  | restrain {scope user issuedBy r x u} (valid : r.problems = []) (live : scopeIsLive t scope = true)
      (made : x = ⟨scope, user, r.kind, r.expiresAt, issuedBy, c.now, r.reason⟩)
      (ok : t.putRestraint x = .ok u) :
      Effect c t (.restrain scope user issuedBy r) [] (.one .restraint x) u
  | revokeRestraint {scope user} :
      Effect c t (.revokeRestraint scope user) [] (.flag (t.removeRestraint? scope user).isSome)
        ((t.removeRestraint? scope user).getD t)
  | purgeExpired : Effect c t .purgeExpired [] (.count (t.removeExpired c.now).1) (t.removeExpired c.now).2

section Writing

variable {c : Context} {l : List Ident} {t u : Tables}

theorem createUser_effect {r : CreateUser} {x : User} (h : (createUser c r).Yields l t (.ok x) u) :
    Effect c t (.createUser r) l (.one .user x) u := by
  simp only [createUser, yields_check_bind, yields_freshIdent_bind, yields_openUnit_bind,
    yields_write_bind, yields_commitUnit_bind, yields_pure] at h
  obtain ⟨valid, i, _, rfl, v, ok, rfl, rfl, rfl⟩ := h
  exact .createUser valid rfl ok

theorem createSpace_effect {owner : Ident} {r : CreateSpace} {x : Space}
    (h : (createSpace c owner r).Yields l t (.ok x) u) :
    Effect c t (.createSpace owner r) l (.one .space x) u := by
  simp only [createSpace, demandUser, yields_check_bind, yields_freshIdent_bind, yields_openUnit_bind,
    yields_demand_bind, yields_write_bind, yields_commitUnit_bind, yields_pure] at h
  obtain ⟨valid, i, _, rfl, _, -, v, ok, w, joined, rfl, rfl, rfl⟩ := h
  exact .createSpace valid rfl ok joined

theorem createChannel_effect {space : Ident} {r : CreateChannel} {x : Channel}
    (h : (createChannel c space r).Yields l t (.ok x) u) :
    Effect c t (.createChannel space r) l (.one .channel x) u := by
  simp only [createChannel, demandSpace, yields_check_bind, yields_openUnit_bind, yields_demand_bind,
    yields_freshIdent_bind, yields_write_bind, yields_commitUnit_bind, yields_pure] at h
  obtain ⟨valid, s, live, i, _, rfl, v, ok, rfl, rfl, rfl⟩ := h
  exact .createChannel valid live rfl ok

@[simp] theorem yields_requireModerator_bind {β : Type} {space user : Ident} {k : Unit → Action β} {y : β} :
    (requireModerator space user >>= k).Yields l t (.ok y) u ↔
      isModerator t space user = true ∧ (k ()).Yields l t (.ok y) u := by
  simp only [requireModerator, bind_assoc, yields_see_bind]
  cases isModerator t space user <;> simp

@[simp] theorem refused_requireModerator_bind {β : Type} {space user : Ident} {k : Unit → Action β} {r : Refusal} :
    (requireModerator space user >>= k).Yields l t (.error r) u ↔
      (isModerator t space user = false ∧ l = [] ∧ r = .failed (.violation (.notSpaceModerator space)) ∧ u = t) ∨
        (isModerator t space user = true ∧ (k ()).Yields l t (.error r) u) := by
  simp only [requireModerator, bind_assoc, yields_see_bind]
  cases isModerator t space user <;> simp

theorem renameSpace_effect {actor space : Ident} {r : RenameSpace} {x : Space}
    (h : (renameSpace c actor space r).Yields l t (.ok x) u) :
    Effect c t (.renameSpace actor space r) l (.one .space x) u := by
  simp only [renameSpace, demandSpace, yields_check_bind, yields_openUnit_bind, yields_demand_bind,
    yields_requireModerator_bind, yields_changeOr_bind, yields_commitUnit_bind, yields_pure] at h
  obtain ⟨valid, s, live, moderator, v, ok, rfl, rfl, rfl⟩ := h
  exact .renameSpace valid live moderator rfl ok

theorem renameChannel_effect {actor channel : Ident} {r : RenameChannel} {x : Channel}
    (h : (renameChannel c actor channel r).Yields l t (.ok x) u) :
    Effect c t (.renameChannel actor channel r) l (.one .channel x) u := by
  simp only [renameChannel, demandOpenChannel, yields_check_bind, yields_openUnit_bind,
    yields_demand_bind, yields_requireModerator_bind, yields_changeOr_bind, yields_commitUnit_bind, yields_pure] at h
  obtain ⟨valid, j, live, moderator, v, ok, rfl, rfl, rfl⟩ := h
  exact .renameChannel valid live moderator rfl ok

theorem deleteContent_effect {kind : ContentKind} {id : Ident} {x : Unit}
    (h : (deleteContent c kind id).Yields l t (.ok x) u) :
    Effect c t (.deleteContent kind id) l .done u := by
  simp only [deleteContent, yields_openUnit_bind, yields_changeOr_bind, yields_commitUnit] at h
  obtain ⟨v, ok, rfl, rfl⟩ := h
  exact .deleteContent ok

theorem postMessage_effect {channel author : Ident} {r : PostMessage} {x : Message}
    (h : (postMessage c channel author r).Yields l t (.ok x) u) :
    Effect c t (.postMessage channel author r) l (.one .message x) u := by
  simp only [postMessage, yields_check_bind, yields_openUnit_bind, yields_demand_bind,
    yields_permit_bind, yields_freshIdent_bind, yields_write_bind, yields_commitUnit_bind, yields_pure] at h
  obtain ⟨valid, _, allowed, rfl, i, _, rfl, v, ok, rfl, rfl, rfl⟩ := h
  exact .postMessage valid allowed rfl ok

theorem editMessage_effect {actor message : Ident} {r : EditMessage} {x : Message}
    (h : (editMessage c actor message r).Yields l t (.ok x) u) :
    Effect c t (.editMessage actor message r) l (.one .message x) u := by
  simp only [editMessage, demandMessage, yields_check_bind, yields_openUnit_bind, yields_demand_bind] at h
  obtain ⟨valid, m, live, h⟩ := h
  split at h
  · exact absurd h not_fail_bind_yields
  · next author =>
    simp only [yields_demand_bind, yields_permit_bind, yields_changeOr_bind, yields_commitUnit_bind, yields_pure] at h
    obtain ⟨_, allowed, rfl, v, ok, rfl, rfl, rfl⟩ := h
    exact .editMessage valid live (by simpa [Message.isAuthor] using author) allowed rfl ok

theorem attachMedia_effect {message : Ident} {r : AttachMedia} {x : Media}
    (h : (attachMedia c message r).Yields l t (.ok x) u) :
    Effect c t (.attachMedia message r) l (.one .media x) u := by
  simp only [attachMedia, demandMessage, yields_check_bind, yields_openUnit_bind, yields_demand_bind,
    yields_freshIdent_bind, yields_write_bind, yields_commitUnit_bind, yields_pure] at h
  obtain ⟨valid, m, live, i, _, rfl, v, ok, rfl, rfl, rfl⟩ := h
  exact .attachMedia valid live rfl ok

theorem deleteMessage?_isSome {message : Ident} {m : Message} (live : t.message? .live message = some m)
    (time : Time.Instant) : (t.deleteMessage? message time).isSome = true := by
  have stored : t.messages.get? message = some m := (Option.filter_eq_some_iff.mp live).1
  exact Option.isSome_iff_exists.mpr ⟨_, Tables.deleteMessage?_eq_some_iff.mpr ⟨m, stored, rfl⟩⟩

theorem deleteMessageAs_effect {actor message : Ident} {x : Unit}
    (h : (deleteMessageAs c actor message).Yields l t (.ok x) u) :
    Effect c t (.deleteMessageAs actor message) l .done u := by
  simp only [deleteMessageAs, demandMessage, yields_openUnit_bind, yields_demand_bind] at h
  obtain ⟨m, live, h⟩ := h
  obtain ⟨v, ok⟩ := Option.isSome_iff_exists.mp (deleteMessage?_isSome live c.now)
  split at h
  · simp only [yields_demand_bind, yields_see_bind] at h
    obtain ⟨ch, found, h⟩ := h
    split at h
    · exact absurd h not_fail_bind_yields
    · next moderator =>
      simp only [yields_change_bind, yields_commitUnit, ok, Option.getD_some] at h
      obtain ⟨rfl, rfl⟩ := h
      exact .deleteMessageAs live (.inr ⟨ch, found, by simpa using moderator⟩) ok
  · next author =>
    simp only [yields_change_bind, yields_commitUnit, ok, Option.getD_some] at h
    obtain ⟨rfl, rfl⟩ := h
    exact .deleteMessageAs live (.inl (by simpa [Message.isAuthor] using author)) ok

theorem addSpaceMember_effect {space user : Ident} {role : Role} {x : SpaceMember}
    (h : (addSpaceMember c space user role).Yields l t (.ok x) u) :
    Effect c t (.addSpaceMember space user role) l (.one .spaceMember x) u := by
  simp only [addSpaceMember, demandSpace, demandUser, yields_openUnit_bind, yields_demand_bind,
    yields_write_bind, yields_commitUnit_bind, yields_pure] at h
  obtain ⟨s, live, _, -, v, ok, rfl, rfl, rfl⟩ := h
  exact .addSpaceMember live rfl ok

theorem addChannelMember_effect {channel user : Ident} {x : ChannelMember}
    (h : (addChannelMember c channel user).Yields l t (.ok x) u) :
    Effect c t (.addChannelMember channel user) l (.one .channelMember x) u := by
  simp only [addChannelMember, demandChannel, demandUser, yields_openUnit_bind, yields_demand_bind,
    yields_see_bind] at h
  obtain ⟨ch, live, _, -, h⟩ := h
  split at h
  · exact absurd h not_fail_bind_yields
  · next member =>
    simp only [yields_write_bind, yields_commitUnit_bind, yields_pure] at h
    obtain ⟨v, ok, rfl, rfl, rfl⟩ := h
    exact .addChannelMember live (by simpa [Option.isSome_iff_ne_none] using member) rfl ok

theorem removeMember_effect {scope : Scope} {user : Ident} {x : Bool}
    (h : (removeMember scope user).Yields l t (.ok x) u) :
    Effect c t (.removeMember scope user) l (.flag x) u := by
  cases scope with
  | space space =>
    simp only [removeMember, endMembership, bind_assoc, pure_bind, yields_openUnit_bind, yields_change_bind,
      yields_tally_bind, yields_commitUnit_bind, yields_pure] at h
    obtain ⟨rfl, rfl, rfl⟩ := h
    exact .leaveSpace
  | channel channel =>
    simp only [removeMember, endMembership, yields_openUnit_bind, yields_change_bind, yields_commitUnit_bind,
      yields_pure] at h
    obtain ⟨rfl, rfl, rfl⟩ := h
    exact .leaveChannel

theorem setSpaceRole_effect {space user : Ident} {role : Role} {x : SpaceMember}
    (h : (setSpaceRole space user role).Yields l t (.ok x) u) :
    Effect c t (.setSpaceRole space user role) l (.one .spaceMember x) u := by
  simp only [setSpaceRole, demandSpace, yields_openUnit_bind, yields_demand_bind, yields_revise_bind] at h
  obtain ⟨s, live, h⟩ := h
  split at h
  · next m v ok =>
    simp only [yields_commitUnit_bind, yields_pure] at h
    obtain ⟨rfl, rfl, rfl⟩ := h
    exact .setSpaceRole live ok
  · exact absurd h not_refuse_yields

@[simp] theorem yields_demandScope_bind {β : Type} {scope : Scope} {k : Unit → Action β} {y : β} :
    (demandScope scope >>= k).Yields l t (.ok y) u ↔
      scopeIsLive t scope = true ∧ (k ()).Yields l t (.ok y) u := by
  cases scope with
  | space id =>
    simp only [demandScope, demandSpace, scopeIsLive, bind_assoc, pure_bind, yields_demand_bind,
      Option.isSome_iff_exists, exists_and_right]
  | channel id =>
    simp only [demandScope, demandChannel, scopeIsLive, bind_assoc, pure_bind, yields_demand_bind,
      Option.isSome_iff_exists, exists_and_right]

@[simp] theorem refused_demandScope_bind {β : Type} {scope : Scope} {k : Unit → Action β} {r : Refusal} :
    (demandScope scope >>= k).Yields l t (.error r) u ↔
      (scopeIsLive t scope = false ∧ l = [] ∧ r = .failed (scopeNotFound scope) ∧ u = t) ∨
        (scopeIsLive t scope = true ∧ (k ()).Yields l t (.error r) u) := by
  cases scope with
  | space id =>
    simp only [demandScope, demandSpace, scopeIsLive, scopeNotFound, bind_assoc, pure_bind, refused_demand_bind,
      Option.isSome_iff_exists, Option.isSome_eq_false_iff, Option.isNone_iff_eq_none, exists_and_right]
  | channel id =>
    simp only [demandScope, demandChannel, scopeIsLive, scopeNotFound, bind_assoc, pure_bind, refused_demand_bind,
      Option.isSome_iff_exists, Option.isSome_eq_false_iff, Option.isNone_iff_eq_none, exists_and_right]

theorem restrain_effect {scope : Scope} {user issuedBy : Ident} {r : Restrain} {x : Restraint}
    (h : (restrain c scope user issuedBy r).Yields l t (.ok x) u) :
    Effect c t (.restrain scope user issuedBy r) l (.one .restraint x) u := by
  simp only [restrain, demandUser, yields_check_bind, yields_openUnit_bind, yields_demandScope_bind,
    yields_demand_bind, yields_write_bind, yields_commitUnit_bind, yields_pure] at h
  obtain ⟨valid, live, _, -, v, ok, rfl, rfl, rfl⟩ := h
  exact .restrain valid live rfl ok

theorem revokeRestraint_effect {scope : Scope} {user : Ident} {x : Bool}
    (h : (revokeRestraint scope user).Yields l t (.ok x) u) :
    Effect c t (.revokeRestraint scope user) l (.flag x) u := by
  simp only [revokeRestraint, yields_openUnit_bind, yields_change_bind, yields_commitUnit_bind, yields_pure] at h
  obtain ⟨rfl, rfl, rfl⟩ := h
  exact .revokeRestraint

theorem purgeExpired_effect {n : Nat} (h : (purgeExpired c).Yields l t (.ok n) u) :
    Effect c t .purgeExpired l (.count n) u := by
  simp only [purgeExpired, yields_openUnit_bind, yields_tally_bind, yields_commitUnit_bind, yields_pure] at h
  obtain ⟨rfl, rfl, rfl⟩ := h
  exact .purgeExpired

end Writing

section Reading

variable {c : Context} {l : List Ident} {t u : Tables}

theorem look_of_isRead {call : Call} {a : Answer} (reads : call.isRead = true)
    (h : (call.perform c).Yields l t (.ok a) u) : l = [] ∧ u = t := by
  cases call with
  | getUser user =>
    simp only [Call.perform, yields_map, getUser, demandUser, yields_openUnit_bind, yields_demand] at h
    obtain ⟨_, ⟨rfl, -, rfl⟩, -⟩ := h
    exact ⟨rfl, rfl⟩
  | canPost channel user =>
    simp only [Call.perform, yields_map, canPost, yields_openUnit_bind, yields_see] at h
    obtain ⟨_, ⟨rfl, -, rfl⟩, -⟩ := h
    exact ⟨rfl, rfl⟩
  | spaceMembers space =>
    simp only [Call.perform, yields_map, spaceMembers, demandSpace, yields_openUnit_bind,
      yields_demand_bind, yields_see] at h
    obtain ⟨_, ⟨_, -, rfl, -, rfl⟩, -⟩ := h
    exact ⟨rfl, rfl⟩
  | channelMembers channel =>
    simp only [Call.perform, yields_map, channelMembers, demandChannel, yields_openUnit_bind,
      yields_demand_bind, yields_see] at h
    obtain ⟨_, ⟨_, -, rfl, -, rfl⟩, -⟩ := h
    exact ⟨rfl, rfl⟩
  | activeRestraint scope user time =>
    simp only [Call.perform, yields_map, activeRestraint, yields_openUnit_bind, yields_see] at h
    obtain ⟨_, ⟨rfl, -, rfl⟩, -⟩ := h
    exact ⟨rfl, rfl⟩
  | isRestrained scope user time =>
    simp only [Call.perform, yields_map, isRestrained, activeRestraint, bind_assoc, yields_openUnit_bind,
      yields_see_bind, yields_pure] at h
    obtain ⟨_, ⟨rfl, -, rfl⟩, -⟩ := h
    exact ⟨rfl, rfl⟩
  | restraintsInScope scope time =>
    simp only [Call.perform, yields_map, restraintsInScope, yields_openUnit_bind, yields_see] at h
    obtain ⟨_, ⟨rfl, -, rfl⟩, -⟩ := h
    exact ⟨rfl, rfl⟩
  | channelInSpace v channel =>
    simp only [Call.perform, yields_map, channelInSpace, yields_openUnit_bind, yields_demand] at h
    obtain ⟨_, ⟨rfl, -, rfl⟩, -⟩ := h
    exact ⟨rfl, rfl⟩
  | channelsInSpace space =>
    simp only [Call.perform, yields_map, channelsInSpace, demandSpace, yields_openUnit_bind,
      yields_demand_bind, yields_see] at h
    obtain ⟨_, ⟨_, -, rfl, -, rfl⟩, -⟩ := h
    exact ⟨rfl, rfl⟩
  | spaceOverview space =>
    simp only [Call.perform, yields_map, spaceOverview, demandSpace, yields_openUnit_bind,
      yields_demand_bind, yields_see_bind, yields_pure] at h
    obtain ⟨_, ⟨_, -, rfl, -, rfl⟩, -⟩ := h
    exact ⟨rfl, rfl⟩
  | message v id =>
    simp only [Call.perform, yields_map, message, demandMessage, yields_openUnit_bind, yields_demand] at h
    obtain ⟨_, ⟨rfl, -, rfl⟩, -⟩ := h
    exact ⟨rfl, rfl⟩
  | messagesInChannel channel page =>
    simp only [Call.perform, yields_map, messagesInChannel, demandOpenChannel, yields_check_bind,
      yields_openUnit_bind, yields_demand_bind, yields_see] at h
    obtain ⟨_, ⟨-, _, -, rfl, -, rfl⟩, -⟩ := h
    exact ⟨rfl, rfl⟩
  | mediaOfMessage v id =>
    simp only [Call.perform, yields_map, mediaOfMessage, demandMessage, yields_openUnit_bind,
      yields_demand_bind, yields_see] at h
    obtain ⟨_, ⟨_, -, rfl, -, rfl⟩, -⟩ := h
    exact ⟨rfl, rfl⟩
  | _ => cases reads

end Reading

variable {c : Context} {l : List Ident} {t u : Tables} {call : Call} {a : Answer}

/-- Whatever a call does when it is answered is one of the effects. -/
theorem effect_of_yields (h : (call.perform c).Yields l t (.ok a) u) : Effect c t call l a u := by
  by_cases reads : call.isRead = true
  · obtain ⟨rfl, rfl⟩ := look_of_isRead reads h
    exact .look reads
  · cases call with
    | createUser r =>
      obtain ⟨x, made, rfl⟩ := yields_map.mp h
      exact createUser_effect made
    | createSpace owner r =>
      obtain ⟨x, made, rfl⟩ := yields_map.mp h
      exact createSpace_effect made
    | createChannel space r =>
      obtain ⟨x, made, rfl⟩ := yields_map.mp h
      exact createChannel_effect made
    | renameSpace actor space r =>
      obtain ⟨x, made, rfl⟩ := yields_map.mp h
      exact renameSpace_effect made
    | renameChannel actor channel r =>
      obtain ⟨x, made, rfl⟩ := yields_map.mp h
      exact renameChannel_effect made
    | deleteContent kind id =>
      obtain ⟨x, made, rfl⟩ := yields_map.mp h
      exact deleteContent_effect made
    | postMessage channel author r =>
      obtain ⟨x, made, rfl⟩ := yields_map.mp h
      exact postMessage_effect made
    | editMessage actor message r =>
      obtain ⟨x, made, rfl⟩ := yields_map.mp h
      exact editMessage_effect made
    | attachMedia message r =>
      obtain ⟨x, made, rfl⟩ := yields_map.mp h
      exact attachMedia_effect made
    | deleteMessageAs actor message =>
      obtain ⟨x, made, rfl⟩ := yields_map.mp h
      exact deleteMessageAs_effect made
    | addSpaceMember space user role =>
      obtain ⟨x, made, rfl⟩ := yields_map.mp h
      exact addSpaceMember_effect made
    | addChannelMember channel user =>
      obtain ⟨x, made, rfl⟩ := yields_map.mp h
      exact addChannelMember_effect made
    | removeMember scope user =>
      obtain ⟨x, made, rfl⟩ := yields_map.mp h
      exact removeMember_effect made
    | setSpaceRole space user role =>
      obtain ⟨x, made, rfl⟩ := yields_map.mp h
      exact setSpaceRole_effect made
    | restrain scope user issuedBy r =>
      obtain ⟨x, made, rfl⟩ := yields_map.mp h
      exact restrain_effect made
    | revokeRestraint scope user =>
      obtain ⟨x, made, rfl⟩ := yields_map.mp h
      exact revokeRestraint_effect made
    | purgeExpired =>
      obtain ⟨x, made, rfl⟩ := yields_map.mp h
      exact purgeExpired_effect made
    | _ => exact absurd rfl reads

theorem change_of_delete? {kind : ContentKind} {id : Ident} {time : Time.Instant}
    (ok : kind.delete? t id time = some u) : Change t u := by
  cases kind with
  | space => exact .deleteSpace ok
  | channel => exact .deleteChannel ok
  | message => exact .deleteMessage ok

theorem change_removeSpaceMember (space user : Ident) :
    Change t ((t.removeSpaceMember? space user).getD t) := by
  cases ok : t.removeSpaceMember? space user with
  | none => exact .none
  | some v => exact .removeSpaceMember ok

theorem change_removeChannelMember (channel user : Ident) :
    Change t ((t.removeChannelMember? channel user).getD t) := by
  cases ok : t.removeChannelMember? channel user with
  | none => exact .none
  | some v => exact .removeChannelMember ok

theorem change_removeRestraint (scope : Scope) (user : Ident) :
    Change t ((t.removeRestraint? scope user).getD t) := by
  cases ok : t.removeRestraint? scope user with
  | none => exact .none
  | some v => exact .removeRestraint ok

open Relation (ReflTransGen) in
theorem Effect.changes (h : Effect c t call l a u) : ReflTransGen Change t u := by
  cases h with
  | look => exact .refl
  | createUser _ _ ok => exact .single (.insertUser ok)
  | createSpace _ _ ok joined => exact .tail (.single (.insertSpace ok)) (.insertSpaceMember joined)
  | createChannel _ _ _ ok => exact .single (.insertChannel ok)
  | renameSpace _ _ _ _ ok => exact .single (.updateSpace ok)
  | renameChannel _ _ _ _ ok => exact .single (.updateChannel ok)
  | deleteContent ok => exact .single (change_of_delete? ok)
  | postMessage _ _ _ ok => exact .single (.insertMessage ok)
  | editMessage _ _ _ _ _ ok => exact .single (.updateMessage ok)
  | attachMedia _ _ _ ok => exact .single (.insertMedia ok)
  | deleteMessageAs _ _ ok => exact .single (.deleteMessage ok)
  | addSpaceMember _ _ ok => exact .single (.insertSpaceMember ok)
  | addChannelMember _ _ _ ok => exact .single (.insertChannelMember ok)
  | leaveSpace => exact .tail (.single (change_removeSpaceMember _ _)) (.removeChannelMembersIn _ _)
  | leaveChannel => exact .single (change_removeChannelMember _ _)
  | setSpaceRole _ ok => exact .single (.setRole ok)
  | restrain _ _ _ ok => exact .single (.putRestraint ok)
  | revokeRestraint => exact .single (change_removeRestraint _ _)
  | purgeExpired => exact .single (.removeExpired _)

end ChatSpaces.Service
