import ChatSpaces.Proofs.Service.Run

/-!
# Channels lie within spaces

Whoever is a member of a channel is a member of its space. Joining a channel asks for it, leaving a space
ends the memberships in its channels, and no other call takes a membership in a space away or moves a
channel to another space.
-/

namespace ChatSpaces.Tables

/-- Every membership in a channel comes with one in the space of the channel, deleted or not. -/
def Nested (t : Tables) : Prop :=
  ∀ channel user, t.channelMembers.contains (channel, user) = true →
    ∃ c, t.channels.get? channel = some c ∧ t.spaceMembers.contains (c.space, user) = true

namespace Nested

variable {t : Tables}

theorem empty : Nested ∅ := fun _ _ h => nomatch h

theorem putSpaceMember (h : t.Nested) (k : Ident × Ident) (m : SpaceMember) :
    Nested { t with spaceMembers := t.spaceMembers.insert k m } := by
  intro channel user member
  obtain ⟨c, found, inside⟩ := h channel user member
  exact ⟨c, found, Table.contains_insert.mpr (.inr inside)⟩

theorem addChannel (h : t.Nested) {id : Ident} (c : Channel) (free : t.channels.contains id = false) :
    Nested { t with channels := t.channels.insert id c } := by
  intro channel user member
  obtain ⟨old, found, inside⟩ := h channel user member
  -- A channel that has members is there already, so it is not the new one.
  have other : channel ≠ id := by
    rintro rfl
    rw [Table.contains_of_get? found] at free
    cases free
  exact ⟨old, by rw [Table.get?_insert, if_neg other, found], inside⟩

theorem replaceChannel (h : t.Nested) {id : Ident} {old new : Channel}
    (found : t.channels.get? id = some old) (same : new.space = old.space) :
    Nested { t with channels := t.channels.insert id new } := by
  intro channel user member
  obtain ⟨c, there, inside⟩ := h channel user member
  by_cases eq : channel = id
  · subst eq
    rw [found] at there
    cases there
    exact ⟨new, Table.get?_insert_self _ _ _, by rw [same]; exact inside⟩
  · exact ⟨c, by rw [Table.get?_insert, if_neg eq, there], inside⟩

theorem addChannelMember (h : t.Nested) {channel user : Ident} {c : Channel} (m : ChannelMember)
    (found : t.channels.get? channel = some c) (inside : t.spaceMembers.contains (c.space, user) = true) :
    Nested { t with channelMembers := t.channelMembers.insert (channel, user) m } := by
  intro channel' user' member
  rcases Table.contains_insert.mp member with eq | member
  · cases eq
    exact ⟨c, found, inside⟩
  · exact h channel' user' member

theorem removeChannelMember (h : t.Nested) (k : Ident × Ident) :
    Nested { t with channelMembers := t.channelMembers.erase k } :=
  fun channel user member => h channel user (Table.contains_erase.mp member).2

/-- Who is left in a channel after a user has left a space is another user, or the channel belongs to
another space. -/
theorem leaveSpace (h : t.Nested) (space user : Ident) :
    Nested ((t.removeSpaceMember? space user).getD t |>.removeChannelMembersIn space user).2 := by
  rw [getD_removeSpaceMember?]
  intro channel user' member
  obtain ⟨m, kept⟩ := Table.contains_eq_true_iff.mp member
  simp only [removeChannelMembersIn, Table.get?_filter] at kept
  obtain ⟨stored, stays⟩ := Option.filter_eq_some_iff.mp kept
  obtain ⟨c, found, inside⟩ := h channel user' (Table.contains_of_get? stored)
  refine ⟨c, found, Table.contains_erase.mpr ⟨?_, inside⟩⟩
  -- If the user who left were meant, the filter would have taken the row out.
  intro eq
  cases eq
  simp [isChannelOf, found] at stays

end Nested

end ChatSpaces.Tables

namespace ChatSpaces.Service

open Tables (Nested)

variable {c : Context} {t u : Tables} {call : Call} {l : List Ident} {a : Answer}

theorem nested_of_delete? {kind : ContentKind} {id : Ident} {time : Time.Instant} (h : t.Nested)
    (ok : kind.delete? t id time = some u) : u.Nested := by
  cases kind with
  | space =>
    obtain ⟨s, -, rfl⟩ := Tables.deleteSpace?_eq_some_iff.mp ok
    split <;> exact h
  | channel =>
    obtain ⟨c, found, rfl⟩ := Tables.deleteChannel?_eq_some_iff.mp ok
    split
    · exact h
    · exact h.replaceChannel found rfl
  | message =>
    obtain ⟨m, -, rfl⟩ := Tables.deleteMessage?_eq_some_iff.mp ok
    split <;> exact h

theorem nested_of_effect (h : t.Nested) (effect : Effect c t call l a u) : u.Nested := by
  cases effect with
  | look => exact h
  | createUser _ _ ok =>
    obtain ⟨-, -, rfl⟩ := Tables.insertUser_eq_ok_iff.mp ok
    exact h
  | createSpace _ _ ok joined =>
    obtain ⟨-, -, rfl⟩ := Tables.insertSpace_eq_ok_iff.mp ok
    obtain ⟨-, -, -, rfl⟩ := Tables.insertSpaceMember_eq_ok_iff.mp joined
    exact h.putSpaceMember _ _
  | createChannel _ _ _ ok =>
    obtain ⟨-, free, rfl⟩ := Tables.insertChannel_eq_ok_iff.mp ok
    exact h.addChannel _ free
  | renameSpace _ _ _ _ ok =>
    obtain ⟨stored, -, -, rfl⟩ := Tables.updateSpace?_eq_some_iff.mp ok
    exact h
  | renameChannel _ _ _ _ ok =>
    obtain ⟨stored, found, -, rfl⟩ := Tables.updateChannel?_eq_some_iff.mp ok
    exact h.replaceChannel found rfl
  | deleteContent ok => exact nested_of_delete? h ok
  | postMessage _ _ _ ok =>
    obtain ⟨-, -, -, rfl⟩ := Tables.insertMessage_eq_ok_iff.mp ok
    exact h
  | editMessage _ _ _ _ _ ok =>
    obtain ⟨stored, -, -, rfl⟩ := Tables.updateMessage?_eq_some_iff.mp ok
    exact h
  | attachMedia _ _ _ ok =>
    obtain ⟨-, -, rfl⟩ := Tables.insertMedia_eq_ok_iff.mp ok
    exact h
  | deleteMessageAs _ _ ok => exact nested_of_delete? h (show ContentKind.delete? t .message _ _ = some _ from ok)
  | addSpaceMember _ _ ok =>
    obtain ⟨-, -, -, rfl⟩ := Tables.insertSpaceMember_eq_ok_iff.mp ok
    exact h.putSpaceMember _ _
  | addChannelMember live member made ok =>
    obtain ⟨-, -, -, rfl⟩ := Tables.insertChannelMember_eq_ok_iff.mp ok
    subst made
    exact h.addChannelMember _ (Option.filter_eq_some_iff.mp live).1 member
  | leaveSpace => exact h.leaveSpace _ _
  | leaveChannel =>
    rw [Tables.getD_removeChannelMember?]
    exact h.removeChannelMember _
  | setSpaceRole _ ok =>
    obtain ⟨stored, -, -, rfl⟩ := Tables.setRole?_eq_some_iff.mp ok
    exact h.putSpaceMember _ _
  | restrain _ _ _ ok =>
    obtain ⟨-, rfl⟩ := Tables.putRestraint_eq_ok_iff.mp ok
    exact h
  | revokeRestraint =>
    rw [Tables.getD_removeRestraint?]
    exact h
  | purgeExpired => exact h

theorem Served.nested (h : Served t) : t.Nested := by
  induction h with
  | empty => exact .empty
  | answer _ effect ih => exact nested_of_effect ih effect

namespace Deployment

variable {d : Deployment}

theorem call_leaveSpace (d : Deployment) (space user : Ident) :
    d.call (.removeMember (.space space) user) =
      (.ok (.flag (d.tables.removeSpaceMember? space user).isSome),
        { d with tables :=
          (((d.tables.removeSpaceMember? space user).getD d.tables).removeChannelMembersIn space user).2 }) := by
  simp only [call, work, Call.perform, removeMember, endMembership, Action.run_map, Action.run_bind,
    Action.run_openUnit, Action.run_change]
  cases d.tables.removeSpaceMember? space user <;> rfl

/-- In every state that a service can reach, each member of a channel is a member of its space; and whoever
leaves a space is left in none of its channels. -/
theorem channel_members_within_space (h : d.Reachable) :
    (∀ channel user m, d.tables.channelMembers.get? (channel, user) = some m →
      m.channel = channel ∧ m.user = user ∧ ∃ c s, d.tables.channels.get? channel = some c ∧
        d.tables.spaceMembers.get? (c.space, user) = some s) ∧
    ∀ space user, ∃ removed left, d.call (.removeMember (.space space) user) = (.ok (.flag removed), left) ∧
      ∀ channel c, d.tables.channels.get? channel = some c → c.space = space →
        left.tables.channelMembers.get? (channel, user) = none := by
  constructor
  · intro channel user m found
    have own := h.served.built.keyed.channelMembers _ _ found
    obtain ⟨c, there, inside⟩ := h.served.nested channel user (Table.contains_of_get? found)
    obtain ⟨s, member⟩ := Table.contains_eq_true_iff.mp inside
    exact ⟨congrArg Prod.fst own, congrArg Prod.snd own, c, s, there, member⟩
  · intro space user
    refine ⟨_, _, call_leaveSpace d space user, ?_⟩
    rintro channel c found rfl
    simp only [Tables.getD_removeSpaceMember?, Tables.removeChannelMembersIn, Tables.isChannelOf,
      Table.get?_filter, found]
    simp

/-- User 1 is a member of the deleted channel 3 of space 2 until leaving the space. -/
theorem channel_members_within_space_deleted :
    let d := blank.after [.call (.createUser ⟨"ann", none⟩), .call (.createSpace ⟨1⟩ ⟨"home", none⟩),
      .call (.createChannel ⟨2⟩ ⟨"news"⟩), .call (.addChannelMember ⟨3⟩ ⟨1⟩),
      .call (.deleteContent .channel ⟨3⟩)]
    (∃ c s, d.tables.channels.get? ⟨3⟩ = some c ∧ d.tables.spaceMembers.get? (c.space, ⟨1⟩) = some s) ∧
      (d.call (.removeMember (.space ⟨2⟩) ⟨1⟩)).2.tables.channelMembers.get? (⟨3⟩, ⟨1⟩) = none := by
  intro d
  have h := channel_members_within_space (d := d) (reachable_blank_after _)
  have member : d.tables.channelMembers.get? (⟨3⟩, ⟨1⟩) = some ⟨⟨3⟩, ⟨1⟩, .ofMillis 0⟩ := by decide
  have deleted : d.tables.channels.get? ⟨3⟩ = some ⟨⟨3⟩, ⟨2⟩, "news", true, .ofMillis 0, .ofMillis 0⟩ := by
    decide
  refine ⟨(h.1 _ _ _ member).2.2, ?_⟩
  obtain ⟨removed, left, answered, gone⟩ := h.2 ⟨2⟩ ⟨1⟩
  rw [answered]
  exact gone _ _ deleted rfl

end Deployment

end ChatSpaces.Service
