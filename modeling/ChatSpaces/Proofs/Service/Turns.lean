import ChatSpaces.Proofs.Service.Record

/-!
# What deeds do to memberships

A deed begins a membership where there is none, ends one that is there, or leaves it as it is; between a user and
a space it may also give another role. Which of these it does can be seen from the deed alone.
-/

namespace ChatSpaces.Service

open Time (Instant)

namespace Deed

variable (space user : Ident)

def joinResult? : Deed → Option (Except Refusal Answer)
  | .call _ (.addSpaceMember space' user' _) result =>
    if (space', user') = (space, user) then some result else none
  | _ => none

def joins (x : Deed) : Bool := (x.joinResult? space user).any (·.isOk)

def founds : Deed → Bool
  | .call _ (.createSpace owner _) (.ok (.entity (some (.space s)))) => (s.id, owner) = (space, user)
  | _ => false

/-- The user was a member of the space and has been removed from it. -/
def leaves : Deed → Bool
  | .call _ (.removeMember (.space space') user') (.ok (.flag true)) => (space', user') = (space, user)
  | _ => false

inductive Grants (role : Role) : Deed → Prop
  | found {now r s} (owner : role = .owner) (made : s.id = space) :
      Grants role (.call now (.createSpace user r) (.ok (.one .space s)))
  | join {now a} : Grants role (.call now (.addSpaceMember space user role) (.ok a))
  | regrade {now a} : Grants role (.call now (.setSpaceRole space user role) (.ok a))

inductive Enters (channel : Ident) : Deed → Prop
  | add {now a} : Enters channel (.call now (.addChannelMember channel user) (.ok a))

inductive Quits (channel : Ident) : Deed → Prop
  | channel {now a} : Quits channel (.call now (.removeMember (.channel channel) user) (.ok a))
  | space {now a} : Quits channel (.call now (.removeMember (.space space) user) (.ok a))

structure Apart (x : Deed) : Prop where
  joins : x.joins space user = false
  founds : x.founds space user = false
  leaves : x.leaves space user = false
  grants : ∀ role, ¬ x.Grants space user role

/-- What a deed does to the membership of the user in the space: the role before it and after it. -/
inductive Turn : Deed → Option Role → Option Role → Prop
  | found {now r s} (made : s.id = space) :
      Turn (.call now (.createSpace user r) (.ok (.one .space s))) none (some .owner)
  | join {now role a} : Turn (.call now (.addSpaceMember space user role) (.ok a)) none (some role)
  | regrade {now role old a} :
      Turn (.call now (.setSpaceRole space user role) (.ok a)) (some old) (some role)
  | leave {now old} :
      Turn (.call now (.removeMember (.space space) user) (.ok (.flag true))) (some old) none
  | rest {x role} (apart : x.Apart space user) : Turn x role role

/-- What a deed does to the membership of the user in a channel of the space: whether there is one before it and
after it. -/
inductive Passage (channel : Ident) : Deed → Bool → Bool → Prop
  | enter {now a} : Passage channel (.call now (.addChannelMember channel user) (.ok a)) false true
  | quit {x before} (quits : x.Quits space user channel) : Passage channel x before false
  | rest {x there} (enters : ¬ x.Enters user channel) (quits : ¬ x.Quits space user channel) :
      Passage channel x there there

end Deed

def Call.seats : Call → Bool
  | createSpace .. | addSpaceMember .. | addChannelMember .. | removeMember .. | setSpaceRole .. => true
  | _ => false

theorem Call.seats_of_isRead {call : Call} (reads : call.isRead = true) : call.seats = false := by
  cases call with
  | createSpace | addSpaceMember | addChannelMember | removeMember | setSpaceRole => cases reads
  | _ => rfl

def roleIn? (t : Tables) (space user : Ident) : Option Role := (t.spaceMember? space user).map (·.role)

section Effect

variable {c : Context} {t u : Tables} {call : Call} {l : List Ident} {a : Answer}

theorem members_of_delete? {kind : ContentKind} {id : Ident} {time : Instant} (ok : kind.delete? t id time = some u) :
    u.spaceMembers = t.spaceMembers ∧ u.channelMembers = t.channelMembers := by
  cases kind with
  | space =>
    obtain ⟨s, -, rfl⟩ := Tables.deleteSpace?_eq_some_iff.mp ok
    split <;> exact ⟨rfl, rfl⟩
  | channel =>
    obtain ⟨ch, -, rfl⟩ := Tables.deleteChannel?_eq_some_iff.mp ok
    split <;> exact ⟨rfl, rfl⟩
  | message =>
    obtain ⟨m, -, rfl⟩ := Tables.deleteMessage?_eq_some_iff.mp ok
    split <;> exact ⟨rfl, rfl⟩

theorem members_of_effect (effect : Effect c t call l a u) (unseating : call.seats = false) :
    u.spaceMembers = t.spaceMembers ∧ u.channelMembers = t.channelMembers := by
  cases effect with
  | look => exact ⟨rfl, rfl⟩
  | createUser _ _ ok =>
    obtain ⟨-, -, rfl⟩ := Tables.insertUser_eq_ok_iff.mp ok
    exact ⟨rfl, rfl⟩
  | createChannel _ _ _ ok =>
    obtain ⟨-, -, rfl⟩ := Tables.insertChannel_eq_ok_iff.mp ok
    exact ⟨rfl, rfl⟩
  | renameSpace _ _ _ _ ok =>
    obtain ⟨stored, -, -, rfl⟩ := Tables.updateSpace?_eq_some_iff.mp ok
    exact ⟨rfl, rfl⟩
  | renameChannel _ _ _ _ ok =>
    obtain ⟨stored, -, -, rfl⟩ := Tables.updateChannel?_eq_some_iff.mp ok
    exact ⟨rfl, rfl⟩
  | deleteContent ok => exact members_of_delete? ok
  | postMessage _ _ _ ok =>
    obtain ⟨-, -, -, rfl⟩ := Tables.insertMessage_eq_ok_iff.mp ok
    exact ⟨rfl, rfl⟩
  | editMessage _ _ _ _ _ ok =>
    obtain ⟨stored, -, -, rfl⟩ := Tables.updateMessage?_eq_some_iff.mp ok
    exact ⟨rfl, rfl⟩
  | attachMedia _ _ _ ok =>
    obtain ⟨-, -, rfl⟩ := Tables.insertMedia_eq_ok_iff.mp ok
    exact ⟨rfl, rfl⟩
  | deleteMessageAs _ _ ok => exact members_of_delete? (show ContentKind.delete? t .message _ _ = some _ from ok)
  | restrain _ _ _ ok =>
    obtain ⟨-, rfl⟩ := Tables.putRestraint_eq_ok_iff.mp ok
    exact ⟨rfl, rfl⟩
  | revokeRestraint =>
    rw [Tables.getD_removeRestraint?]
    exact ⟨rfl, rfl⟩
  | purgeExpired => exact ⟨rfl, rfl⟩
  | createSpace | addSpaceMember | addChannelMember | leaveSpace | leaveChannel | setSpaceRole => cases unseating

end Effect

variable {space user : Ident}

section Apart

variable {now : Instant} {call : Call} {result : Except Refusal Answer} {space' user' : Ident} {role : Role}

theorem apart_of_not_seats (unseating : call.seats = false) : (Deed.call now call result).Apart space user := by
  cases call with
  | createSpace | addSpaceMember | addChannelMember | removeMember | setSpaceRole => cases unseating
  | _ => exact ⟨rfl, rfl, rfl, by rintro role ⟨⟩⟩

theorem apart_of_refused {r : Refusal} : (Deed.call now call (.error r)).Apart space user where
  joins := by
    cases call with
    | addSpaceMember space' user' role =>
      rw [Deed.joins, Deed.joinResult?]
      split <;> rfl
    | _ => rfl
  founds := by cases call <;> rfl
  leaves := by
    cases call with
    | removeMember scope user' => cases scope <;> rfl
    | _ => rfl
  grants := by rintro role ⟨⟩

theorem apart_createSpace {s : Space} {r : CreateSpace} (other : (space, user) ≠ (s.id, user')) :
    (Deed.call now (.createSpace user' r) (.ok (.one .space s))).Apart space user where
  joins := rfl
  founds := decide_eq_false other.symm
  leaves := rfl
  grants := by
    intro role grants
    cases grants with
    | found _ made => exact other (congrArg (·, user) made.symm)

theorem apart_addSpaceMember (other : (space, user) ≠ (space', user')) :
    (Deed.call now (.addSpaceMember space' user' role) result).Apart space user where
  joins := by
    rw [Deed.joins, Deed.joinResult?, if_neg other.symm]
    rfl
  founds := rfl
  leaves := rfl
  grants := by
    rintro role ⟨⟩
    exact other rfl

theorem apart_setSpaceRole (other : (space, user) ≠ (space', user')) :
    (Deed.call now (.setSpaceRole space' user' role) result).Apart space user where
  joins := rfl
  founds := rfl
  leaves := rfl
  grants := by
    rintro role ⟨⟩
    exact other rfl

theorem apart_leaveSpace {removed : Bool} (other : (space, user) ≠ (space', user')) :
    (Deed.call now (.removeMember (.space space') user') (.ok (.flag removed))).Apart space user where
  joins := rfl
  founds := rfl
  leaves := by
    cases removed with
    | false => rfl
    | true => exact decide_eq_false other.symm
  grants := by rintro role ⟨⟩

end Apart

section Turns

variable {c : Context} {t u : Tables} {x : Deed} {call : Call} {l : List Ident} {a : Answer}

theorem roleIn?_eq_none_iff : roleIn? t space user = none ↔ t.spaceMembers.contains (space, user) = false := by
  simp [roleIn?, Tables.spaceMember?, Table.contains]

theorem roleIn?_of_get? {m : SpaceMember} (found : t.spaceMembers.get? (space, user) = some m) :
    roleIn? t space user = some m.role := by
  rw [roleIn?, Tables.spaceMember?, found, Option.map_some]

theorem turn_of_insert {k : Ident × Ident} {m : SpaceMember}
    (own : (space, user) = k → x.Turn space user (roleIn? t space user) (some m.role))
    (other : (space, user) ≠ k → x.Apart space user) :
    x.Turn space user (roleIn? t space user)
      (roleIn? { t with spaceMembers := t.spaceMembers.insert k m } space user) := by
  have after : roleIn? { t with spaceMembers := t.spaceMembers.insert k m } space user =
      if (space, user) = k then some m.role else roleIn? t space user := by
    unfold roleIn? Tables.spaceMember?
    rw [Table.get?_insert]
    split <;> rfl
  rw [after]
  by_cases same : (space, user) = k
  · rw [if_pos same]
    exact own same
  · rw [if_neg same]
    exact .rest (other same)

theorem roleIn?_of_leaveSpace (space' user' : Ident) :
    roleIn? (((t.removeSpaceMember? space' user').getD t).removeChannelMembersIn space' user').2 space user =
      if (space, user) = (space', user') then none else roleIn? t space user := by
  rw [Tables.getD_removeSpaceMember?]
  unfold roleIn? Tables.spaceMember?
  change ((t.spaceMembers.erase (space', user')).get? (space, user)).map _ = _
  rw [Table.get?_erase]
  split <;> rfl

theorem turn_of_leaveSpace {now : Instant} (space' user' : Ident) :
    (Deed.call now (.removeMember (.space space') user')
      (.ok (.flag (t.removeSpaceMember? space' user').isSome))).Turn space user (roleIn? t space user)
        (roleIn? (((t.removeSpaceMember? space' user').getD t).removeChannelMembersIn space' user').2
          space user) := by
  rw [roleIn?_of_leaveSpace, Tables.isSome_removeSpaceMember?]
  by_cases same : (space, user) = (space', user')
  · cases same
    rw [if_pos rfl]
    cases member : t.spaceMembers.contains (space, user) with
    | false =>
      rw [roleIn?_eq_none_iff.mpr member]
      exact .rest ⟨rfl, rfl, rfl, by rintro role ⟨⟩⟩
    | true =>
      obtain ⟨m, found⟩ := Table.contains_eq_true_iff.mp member
      rw [roleIn?_of_get? found]
      exact .leave
  · rw [if_neg same]
    exact .rest (apart_leaveSpace same)

theorem turn_of_effect (effect : Effect c t call l a u) :
    (Deed.call c.now call (.ok a)).Turn space user (roleIn? t space user) (roleIn? u space user) := by
  cases seats : call.seats with
  | false =>
    unfold roleIn? Tables.spaceMember?
    rw [(members_of_effect effect seats).1]
    exact .rest (apart_of_not_seats seats)
  | true =>
    cases effect with
    | look reads =>
      rw [Call.seats_of_isRead reads] at seats
      cases seats
    | @createSpace owner r i x v u _ made ok joined =>
      obtain ⟨-, -, rfl⟩ := Tables.insertSpace_eq_ok_iff.mp ok
      obtain ⟨-, -, fresh, rfl⟩ := Tables.insertSpaceMember_eq_ok_iff.mp joined
      subst made
      have absent : roleIn? t i owner = none := roleIn?_eq_none_iff.mpr fresh
      refine turn_of_insert (k := (i, owner)) ?_ fun other => apart_createSpace other
      rintro ⟨⟩
      rw [absent]
      exact .found rfl
    | addSpaceMember _ made ok =>
      obtain ⟨-, -, fresh, rfl⟩ := Tables.insertSpaceMember_eq_ok_iff.mp ok
      subst made
      refine turn_of_insert ?_ apart_addSpaceMember
      rintro ⟨⟩
      rw [roleIn?_eq_none_iff.mpr fresh]
      exact .join
    | setSpaceRole _ ok =>
      obtain ⟨stored, found, -, rfl⟩ := Tables.setRole?_eq_some_iff.mp ok
      refine turn_of_insert ?_ apart_setSpaceRole
      rintro ⟨⟩
      rw [roleIn?_of_get? found]
      exact .regrade
    | leaveSpace => exact turn_of_leaveSpace _ _
    | addChannelMember _ _ _ ok =>
      obtain ⟨-, -, -, rfl⟩ := Tables.insertChannelMember_eq_ok_iff.mp ok
      exact .rest ⟨rfl, rfl, rfl, by rintro role ⟨⟩⟩
    | leaveChannel =>
      rw [Tables.getD_removeChannelMember?]
      exact .rest ⟨rfl, rfl, rfl, by rintro role ⟨⟩⟩
    | createUser | createChannel | renameSpace | renameChannel | deleteContent | postMessage | editMessage
    | attachMedia | deleteMessageAs | restrain | revokeRestraint | purgeExpired => cases seats

end Turns

section Passages

variable {c : Context} {t u : Tables} {call : Call} {l : List Ident} {a : Answer} {channel : Ident}

/-- A channel that has members is there, and lies in its space only. -/
theorem isChannelOf_of_member (built : t.Built)
    (place : ∀ ch, t.channels.get? channel = some ch → ch.space = space)
    (member : t.channelMembers.contains (channel, user) = true) (space' : Ident) :
    t.isChannelOf space' channel = decide (space = space') := by
  obtain ⟨m, stored⟩ := Table.contains_eq_true_iff.mp member
  have own : m.channel = channel := congrArg Prod.fst (built.keyed.channelMembers _ _ stored)
  have there : t.channels.contains m.channel = true := built.linked.channelMemberChannel _ _ stored
  rw [own] at there
  obtain ⟨ch, found⟩ := Table.contains_eq_true_iff.mp there
  rw [Tables.isChannelOf, found, Option.any_some, place ch found]

theorem channelMember_of_leaveSpace (built : t.Built)
    (place : ∀ ch, t.channels.get? channel = some ch → ch.space = space) (space' user' : Ident) :
    (((t.removeSpaceMember? space' user').getD t).removeChannelMembersIn space' user').2.channelMembers.contains
        (channel, user) =
      (t.channelMembers.contains (channel, user) && !decide ((space, user) = (space', user'))) := by
  have after :
      (((t.removeSpaceMember? space' user').getD t).removeChannelMembersIn space' user').2.channelMembers.contains
          (channel, user) =
        (t.channelMembers.contains (channel, user) &&
          !(decide (user = user') && t.isChannelOf space' channel)) := by
    rw [Tables.getD_removeSpaceMember?]
    exact Table.contains_filter_key
  rw [after]
  cases member : t.channelMembers.contains (channel, user) with
  | false => rfl
  | true => simp [isChannelOf_of_member built place member, Bool.or_comm]

theorem passage_of_effect (built : t.Built) (effect : Effect c t call l a u)
    (place : ∀ ch, t.channels.get? channel = some ch → ch.space = space) :
    (Deed.call c.now call (.ok a)).Passage space user channel (t.channelMembers.contains (channel, user))
      (u.channelMembers.contains (channel, user)) := by
  cases seats : call.seats with
  | false =>
    rw [(members_of_effect effect seats).2]
    refine .rest ?_ ?_
    · rintro ⟨⟩
      cases seats
    · rintro ⟨⟩ <;> cases seats
  | true =>
    cases effect with
    | look reads =>
      rw [Call.seats_of_isRead reads] at seats
      cases seats
    | createSpace _ _ ok joined =>
      obtain ⟨-, -, rfl⟩ := Tables.insertSpace_eq_ok_iff.mp ok
      obtain ⟨-, -, -, rfl⟩ := Tables.insertSpaceMember_eq_ok_iff.mp joined
      exact .rest (by rintro ⟨⟩) (by rintro ⟨⟩)
    | addSpaceMember _ _ ok =>
      obtain ⟨-, -, -, rfl⟩ := Tables.insertSpaceMember_eq_ok_iff.mp ok
      exact .rest (by rintro ⟨⟩) (by rintro ⟨⟩)
    | setSpaceRole _ ok =>
      obtain ⟨stored, -, -, rfl⟩ := Tables.setRole?_eq_some_iff.mp ok
      exact .rest (by rintro ⟨⟩) (by rintro ⟨⟩)
    | @addChannelMember channel' ch user' y u _ _ made ok =>
      obtain ⟨-, -, fresh, rfl⟩ := Tables.insertChannelMember_eq_ok_iff.mp ok
      subst made
      by_cases same : (channel, user) = (channel', user')
      · cases same
        rw [fresh, Table.contains_insert.mpr (.inl rfl)]
        exact .enter
      · rw [Table.contains_insert_of_ne _ same]
        refine .rest ?_ (by rintro ⟨⟩)
        rintro ⟨⟩
        exact same rfl
    | @leaveSpace space' user' =>
      rw [channelMember_of_leaveSpace built place]
      by_cases same : (space, user) = (space', user')
      · cases same
        rw [decide_eq_true rfl, Bool.not_true, Bool.and_false]
        exact .quit .space
      · rw [decide_eq_false same, Bool.not_false, Bool.and_true]
        refine .rest (by rintro ⟨⟩) ?_
        rintro ⟨⟩
        exact same rfl
    | @leaveChannel channel' user' =>
      rw [Tables.getD_removeChannelMember?]
      by_cases same : (channel, user) = (channel', user')
      · cases same
        rw [Table.contains_erase_self]
        exact .quit .channel
      · rw [Table.contains_erase_of_ne same]
        refine .rest (by rintro ⟨⟩) ?_
        rintro ⟨⟩
        exact same rfl
    | createUser | createChannel | renameSpace | renameChannel | deleteContent | postMessage | editMessage
    | attachMedia | deleteMessageAs | restrain | revokeRestraint | purgeExpired => cases seats

end Passages

end ChatSpaces.Service
