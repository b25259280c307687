import ChatSpaces.Proofs.Tables.Change
import Mathlib.Logic.Relation

/-!
# Integrity of the tables

Every row lies under its own key, every identifier that a row mentions is the key of a row, and no two users
share a name. Rows that others mention are never removed and never change what they mention themselves, so each
change keeps all three. Where they hold, a read that takes deleted rows too finds every row that is stored, and a
listing gives the rows that were asked for in order.
-/

namespace ChatSpaces

namespace Tables

structure Keyed (t : Tables) : Prop where
  users : t.users.KeyedBy User.id
  spaces : t.spaces.KeyedBy Space.id
  channels : t.channels.KeyedBy Channel.id
  spaceMembers : t.spaceMembers.KeyedBy fun m => (m.space, m.user)
  channelMembers : t.channelMembers.KeyedBy fun m => (m.channel, m.user)
  messages : t.messages.KeyedBy Message.id
  media : t.media.KeyedBy Media.id
  restraints : t.restraints.KeyedBy fun r => (r.scope, r.user)

/-- Every identifier that a row mentions as its parent is the key of a row. -/
structure Linked (t : Tables) : Prop where
  spaceOwner : t.spaces.Refers Space.owner t.users
  channelSpace : t.channels.Refers Channel.space t.spaces
  spaceMemberSpace : t.spaceMembers.Refers SpaceMember.space t.spaces
  spaceMemberUser : t.spaceMembers.Refers SpaceMember.user t.users
  channelMemberChannel : t.channelMembers.Refers ChannelMember.channel t.channels
  channelMemberUser : t.channelMembers.Refers ChannelMember.user t.users
  messageChannel : t.messages.Refers Message.channel t.channels
  messageAuthor : t.messages.Refers Message.author t.users
  mediaMessage : t.media.Refers Media.message t.messages
  restraintUser : t.restraints.Refers Restraint.user t.users

theorem Keyed.empty : Keyed ∅ :=
  ⟨.empty _, .empty _, .empty _, .empty _, .empty _, .empty _, .empty _, .empty _⟩

theorem Linked.empty : Linked ∅ :=
  ⟨.empty _ _, .empty _ _, .empty _ _, .empty _ _, .empty _ _, .empty _ _, .empty _ _, .empty _ _,
    .empty _ _, .empty _ _⟩

variable {t u : Tables}

theorem Keyed.change (h : t.Keyed) (changed : Change t u) : u.Keyed := by
  cases changed with
  | none => exact h
  | insertUser ok =>
    obtain ⟨-, -, rfl⟩ := insertUser_eq_ok_iff.mp ok
    exact { h with users := h.users.insert rfl }
  | insertSpace ok =>
    obtain ⟨-, -, rfl⟩ := insertSpace_eq_ok_iff.mp ok
    exact { h with spaces := h.spaces.insert rfl }
  | updateSpace ok =>
    obtain ⟨stored, found, -, rfl⟩ := updateSpace?_eq_some_iff.mp ok
    exact { h with spaces := h.spaces.replace found rfl }
  | deleteSpace ok =>
    obtain ⟨s, found, rfl⟩ := deleteSpace?_eq_some_iff.mp ok
    split
    · exact h
    · exact { h with spaces := h.spaces.replace found rfl }
  | insertChannel ok =>
    obtain ⟨-, -, rfl⟩ := insertChannel_eq_ok_iff.mp ok
    exact { h with channels := h.channels.insert rfl }
  | updateChannel ok =>
    obtain ⟨stored, found, -, rfl⟩ := updateChannel?_eq_some_iff.mp ok
    exact { h with channels := h.channels.replace found rfl }
  | deleteChannel ok =>
    obtain ⟨c, found, rfl⟩ := deleteChannel?_eq_some_iff.mp ok
    split
    · exact h
    · exact { h with channels := h.channels.replace found rfl }
  | insertSpaceMember ok =>
    obtain ⟨-, -, -, rfl⟩ := insertSpaceMember_eq_ok_iff.mp ok
    exact { h with spaceMembers := h.spaceMembers.insert rfl }
  | setRole ok =>
    obtain ⟨stored, found, -, rfl⟩ := setRole?_eq_some_iff.mp ok
    exact { h with spaceMembers := h.spaceMembers.replace found rfl }
  | removeSpaceMember ok =>
    obtain ⟨-, rfl⟩ := removeSpaceMember?_eq_some_iff.mp ok
    exact { h with spaceMembers := h.spaceMembers.erase _ }
  | insertChannelMember ok =>
    obtain ⟨-, -, -, rfl⟩ := insertChannelMember_eq_ok_iff.mp ok
    exact { h with channelMembers := h.channelMembers.insert rfl }
  | removeChannelMember ok =>
    obtain ⟨-, rfl⟩ := removeChannelMember?_eq_some_iff.mp ok
    exact { h with channelMembers := h.channelMembers.erase _ }
  | removeChannelMembersIn space user => exact { h with channelMembers := h.channelMembers.filter _ }
  | putRestraint ok =>
    obtain ⟨-, rfl⟩ := putRestraint_eq_ok_iff.mp ok
    exact { h with restraints := h.restraints.insert rfl }
  | removeRestraint ok =>
    obtain ⟨-, rfl⟩ := removeRestraint?_eq_some_iff.mp ok
    exact { h with restraints := h.restraints.erase _ }
  | removeExpired now => exact { h with restraints := h.restraints.filter _ }
  | insertMessage ok =>
    obtain ⟨-, -, -, rfl⟩ := insertMessage_eq_ok_iff.mp ok
    exact { h with messages := h.messages.insert rfl }
  | updateMessage ok =>
    obtain ⟨stored, found, -, rfl⟩ := updateMessage?_eq_some_iff.mp ok
    exact { h with messages := h.messages.replace found rfl }
  | deleteMessage ok =>
    obtain ⟨m, found, rfl⟩ := deleteMessage?_eq_some_iff.mp ok
    split
    · exact h
    · exact { h with messages := h.messages.replace found rfl }
  | insertMedia ok =>
    obtain ⟨-, -, rfl⟩ := insertMedia_eq_ok_iff.mp ok
    exact { h with media := h.media.insert rfl }

theorem Linked.putSpace (h : t.Linked) {k : Ident} {s : Space} (owner : t.users.contains s.owner = true) :
    Linked { t with spaces := t.spaces.insert k s } :=
  { h with
    spaceOwner := h.spaceOwner.insert owner
    channelSpace := h.channelSpace.grow _ _
    spaceMemberSpace := h.spaceMemberSpace.grow _ _ }

theorem Linked.putChannel (h : t.Linked) {k : Ident} {c : Channel} (space : t.spaces.contains c.space = true) :
    Linked { t with channels := t.channels.insert k c } :=
  { h with
    channelSpace := h.channelSpace.insert space
    channelMemberChannel := h.channelMemberChannel.grow _ _
    messageChannel := h.messageChannel.grow _ _ }

theorem Linked.putMessage (h : t.Linked) {k : Ident} {m : Message}
    (channel : t.channels.contains m.channel = true) (author : t.users.contains m.author = true) :
    Linked { t with messages := t.messages.insert k m } :=
  { h with
    messageChannel := h.messageChannel.insert channel
    messageAuthor := h.messageAuthor.insert author
    mediaMessage := h.mediaMessage.grow _ _ }

theorem Linked.change (h : t.Linked) (changed : Change t u) : u.Linked := by
  cases changed with
  | none => exact h
  | insertUser ok =>
    obtain ⟨-, -, rfl⟩ := insertUser_eq_ok_iff.mp ok
    exact { h with
      spaceOwner := h.spaceOwner.grow _ _
      spaceMemberUser := h.spaceMemberUser.grow _ _
      channelMemberUser := h.channelMemberUser.grow _ _
      messageAuthor := h.messageAuthor.grow _ _
      restraintUser := h.restraintUser.grow _ _ }
  | insertSpace ok =>
    obtain ⟨owner, -, rfl⟩ := insertSpace_eq_ok_iff.mp ok
    exact h.putSpace owner
  | updateSpace ok =>
    obtain ⟨stored, found, -, rfl⟩ := updateSpace?_eq_some_iff.mp ok
    exact h.putSpace (h.spaceOwner _ stored found)
  | deleteSpace ok =>
    obtain ⟨s, found, rfl⟩ := deleteSpace?_eq_some_iff.mp ok
    split
    · exact h
    · exact h.putSpace (h.spaceOwner _ s found)
  | insertChannel ok =>
    obtain ⟨space, -, rfl⟩ := insertChannel_eq_ok_iff.mp ok
    exact h.putChannel space
  | updateChannel ok =>
    obtain ⟨stored, found, -, rfl⟩ := updateChannel?_eq_some_iff.mp ok
    exact h.putChannel (h.channelSpace _ stored found)
  | deleteChannel ok =>
    obtain ⟨c, found, rfl⟩ := deleteChannel?_eq_some_iff.mp ok
    split
    · exact h
    · exact h.putChannel (h.channelSpace _ c found)
  | insertSpaceMember ok =>
    obtain ⟨space, user, -, rfl⟩ := insertSpaceMember_eq_ok_iff.mp ok
    exact { h with
      spaceMemberSpace := h.spaceMemberSpace.insert space
      spaceMemberUser := h.spaceMemberUser.insert user }
  | setRole ok =>
    obtain ⟨stored, found, -, rfl⟩ := setRole?_eq_some_iff.mp ok
    exact { h with
      spaceMemberSpace := h.spaceMemberSpace.insert (h.spaceMemberSpace _ stored found)
      spaceMemberUser := h.spaceMemberUser.insert (h.spaceMemberUser _ stored found) }
  | removeSpaceMember ok =>
    obtain ⟨-, rfl⟩ := removeSpaceMember?_eq_some_iff.mp ok
    exact { h with
      spaceMemberSpace := h.spaceMemberSpace.erase _
      spaceMemberUser := h.spaceMemberUser.erase _ }
  | insertChannelMember ok =>
    obtain ⟨channel, user, -, rfl⟩ := insertChannelMember_eq_ok_iff.mp ok
    exact { h with
      channelMemberChannel := h.channelMemberChannel.insert channel
      channelMemberUser := h.channelMemberUser.insert user }
  | removeChannelMember ok =>
    obtain ⟨-, rfl⟩ := removeChannelMember?_eq_some_iff.mp ok
    exact { h with
      channelMemberChannel := h.channelMemberChannel.erase _
      channelMemberUser := h.channelMemberUser.erase _ }
  | removeChannelMembersIn space user =>
    exact { h with
      channelMemberChannel := h.channelMemberChannel.filter _
      channelMemberUser := h.channelMemberUser.filter _ }
  | putRestraint ok =>
    obtain ⟨user, rfl⟩ := putRestraint_eq_ok_iff.mp ok
    exact { h with restraintUser := h.restraintUser.insert user }
  | removeRestraint ok =>
    obtain ⟨-, rfl⟩ := removeRestraint?_eq_some_iff.mp ok
    exact { h with restraintUser := h.restraintUser.erase _ }
  | removeExpired now => exact { h with restraintUser := h.restraintUser.filter _ }
  | insertMessage ok =>
    obtain ⟨channel, author, -, rfl⟩ := insertMessage_eq_ok_iff.mp ok
    exact h.putMessage channel author
  | updateMessage ok =>
    obtain ⟨stored, found, -, rfl⟩ := updateMessage?_eq_some_iff.mp ok
    exact h.putMessage (h.messageChannel _ stored found) (h.messageAuthor _ stored found)
  | deleteMessage ok =>
    obtain ⟨m, found, rfl⟩ := deleteMessage?_eq_some_iff.mp ok
    split
    · exact h
    · exact h.putMessage (h.messageChannel _ m found) (h.messageAuthor _ m found)
  | insertMedia ok =>
    obtain ⟨message, -, rfl⟩ := insertMedia_eq_ok_iff.mp ok
    exact { h with mediaMessage := h.mediaMessage.insert message }

def NamesApart (t : Tables) : Prop :=
  ∀ k l a b, t.users.get? k = some a → t.users.get? l = some b → a.username = b.username → k = l

theorem NamesApart.empty : NamesApart ∅ := fun _ _ _ _ h => nomatch h

theorem users_of_change (changed : Change t u) : (∃ x, t.insertUser x = .ok u) ∨ u.users = t.users := by
  cases changed with
  | none => exact .inr rfl
  | insertUser ok => exact .inl ⟨_, ok⟩
  | insertSpace ok =>
    obtain ⟨-, -, rfl⟩ := insertSpace_eq_ok_iff.mp ok
    exact .inr rfl
  | updateSpace ok =>
    obtain ⟨stored, -, -, rfl⟩ := updateSpace?_eq_some_iff.mp ok
    exact .inr rfl
  | deleteSpace ok =>
    obtain ⟨s, -, rfl⟩ := deleteSpace?_eq_some_iff.mp ok
    split <;> exact .inr rfl
  | insertChannel ok =>
    obtain ⟨-, -, rfl⟩ := insertChannel_eq_ok_iff.mp ok
    exact .inr rfl
  | updateChannel ok =>
    obtain ⟨stored, -, -, rfl⟩ := updateChannel?_eq_some_iff.mp ok
    exact .inr rfl
  | deleteChannel ok =>
    obtain ⟨c, -, rfl⟩ := deleteChannel?_eq_some_iff.mp ok
    split <;> exact .inr rfl
  | insertSpaceMember ok =>
    obtain ⟨-, -, -, rfl⟩ := insertSpaceMember_eq_ok_iff.mp ok
    exact .inr rfl
  | setRole ok =>
    obtain ⟨stored, -, -, rfl⟩ := setRole?_eq_some_iff.mp ok
    exact .inr rfl
  | removeSpaceMember ok =>
    obtain ⟨-, rfl⟩ := removeSpaceMember?_eq_some_iff.mp ok
    exact .inr rfl
  | insertChannelMember ok =>
    obtain ⟨-, -, -, rfl⟩ := insertChannelMember_eq_ok_iff.mp ok
    exact .inr rfl
  | removeChannelMember ok =>
    obtain ⟨-, rfl⟩ := removeChannelMember?_eq_some_iff.mp ok
    exact .inr rfl
  | removeChannelMembersIn space user => exact .inr rfl
  | putRestraint ok =>
    obtain ⟨-, rfl⟩ := putRestraint_eq_ok_iff.mp ok
    exact .inr rfl
  | removeRestraint ok =>
    obtain ⟨-, rfl⟩ := removeRestraint?_eq_some_iff.mp ok
    exact .inr rfl
  | removeExpired now => exact .inr rfl
  | insertMessage ok =>
    obtain ⟨-, -, -, rfl⟩ := insertMessage_eq_ok_iff.mp ok
    exact .inr rfl
  | updateMessage ok =>
    obtain ⟨stored, -, -, rfl⟩ := updateMessage?_eq_some_iff.mp ok
    exact .inr rfl
  | deleteMessage ok =>
    obtain ⟨m, -, rfl⟩ := deleteMessage?_eq_some_iff.mp ok
    split <;> exact .inr rfl
  | insertMedia ok =>
    obtain ⟨-, -, rfl⟩ := insertMedia_eq_ok_iff.mp ok
    exact .inr rfl

theorem NamesApart.insertUser (h : t.NamesApart) {x : User} (ok : t.insertUser x = .ok u) : u.NamesApart := by
  obtain ⟨-, free, rfl⟩ := insertUser_eq_ok_iff.mp ok
  -- Whoever was there before has another name than the new user.
  have apart : ∀ k a, t.users.get? k = some a → a.username ≠ x.username :=
    fun k a found => free a (Table.mem_rows_iff.mpr ⟨k, found⟩)
  intro k l a b first second same
  simp only [Table.get?_insert] at first second
  by_cases new : k = x.id <;> by_cases new' : l = x.id
  · rw [new, new']
  · rw [if_pos new, Option.some.injEq] at first
    rw [if_neg new'] at second
    exact absurd (first ▸ same.symm) (apart l b second)
  · rw [if_neg new] at first
    rw [if_pos new', Option.some.injEq] at second
    exact absurd (second ▸ same) (apart k a first)
  · rw [if_neg new] at first
    rw [if_neg new'] at second
    exact h k l a b first second same

theorem NamesApart.change (h : t.NamesApart) (changed : Change t u) : u.NamesApart := by
  rcases users_of_change changed with ⟨x, ok⟩ | same
  · exact h.insertUser ok
  · unfold NamesApart
    rw [same]
    exact h

/-- Tables that any series of changes makes of empty ones. -/
inductive Built : Tables → Prop
  | empty : Built ∅
  | change {before after : Tables} : Built before → Change before after → Built after

theorem Built.changes (h : t.Built) (changed : Relation.ReflTransGen Change t u) : u.Built := by
  induction changed with
  | refl => exact h
  | tail _ change ih => exact ih.change change

theorem Built.keyed (h : t.Built) : t.Keyed := by
  induction h with
  | empty => exact .empty
  | change _ changed ih => exact ih.change changed

theorem Built.linked (h : t.Built) : t.Linked := by
  induction h with
  | empty => exact .empty
  | change _ changed ih => exact ih.change changed

theorem Built.namesApart (h : t.Built) : t.NamesApart := by
  induction h with
  | empty => exact .empty
  | change _ changed ih => exact ih.change changed

/-! ## Reads that take deleted rows too -/

theorem channel?_all (id : Ident) : t.channel? .all id = t.channels.get? id := by
  rw [channel?]
  cases t.channels.get? id <;> rfl

theorem space?_all (id : Ident) : t.space? .all id = t.spaces.get? id := by
  rw [space?]
  cases t.spaces.get? id <;> rfl

theorem Linked.channelInSpace?_all (h : t.Linked) {id : Ident} {c : Channel} (found : t.channels.get? id = some c) :
    ∃ s, t.spaces.get? c.space = some s ∧ t.channelInSpace? .all id = some ⟨c, s⟩ := by
  obtain ⟨s, space⟩ := Table.contains_eq_true_iff.mp (h.channelSpace _ _ found)
  refine ⟨s, space, ?_⟩
  rw [channelInSpace?, channel?_all, found, Option.bind_some, space, Option.map_some]

theorem Linked.message?_all (h : t.Linked) (id : Ident) : t.message? .all id = t.messages.get? id := by
  rw [message?]
  cases found : t.messages.get? id with
  | none => rfl
  | some m =>
    obtain ⟨c, channel⟩ := Table.contains_eq_true_iff.mp (h.messageChannel _ _ found)
    obtain ⟨s, space⟩ := Table.contains_eq_true_iff.mp (h.channelSpace _ _ channel)
    simp [Option.filter, admitsMessage, admitsChannel, channel?_all, space?_all, channel, space]

theorem Linked.mediaOf_all (h : t.Linked) (message : Ident) :
    t.mediaOf .all message = t.media.rows.filter (fun m => m.message = message) := by
  rw [mediaOf, h.message?_all]
  split
  · rfl
  · next missing =>
    -- Media of a message that is not stored would refer to nothing.
    symm
    rw [List.filter_eq_nil_iff]
    intro m mem here
    obtain ⟨k, found⟩ := Table.mem_rows_iff.mp mem
    apply missing
    rw [← of_decide_eq_true here]
    exact h.mediaMessage k m found

/-! ## Listings -/

theorem Keyed.mem_restraintsIn_iff (h : t.Keyed) {scope : Scope} {r : Restraint} :
    r ∈ t.restraintsIn scope ↔ t.restraint? scope r.user = some r := by
  rw [restraintsIn, List.mem_filter, decide_eq_true_eq, Table.mem_rows_iff]
  constructor
  · rintro ⟨⟨k, found⟩, rfl⟩
    cases h.restraints _ _ found
    exact found
  · intro found
    exact ⟨⟨_, found⟩, congrArg Prod.fst (h.restraints _ _ found)⟩

/-- Within a scope the order of the keys is that of the users. -/
theorem Keyed.restraintsIn_increasing (h : t.Keyed) (scope : Scope) :
    (t.restraintsIn scope).Pairwise fun r s => r.user < s.user := by
  rw [restraintsIn, List.pairwise_filter]
  refine h.restraints.pairwise_rows.imp ?_
  intro r s before first second
  rw [decide_eq_true_eq] at first second
  change Key.rank (r.scope, r.user) < Key.rank (s.scope, s.user) at before
  rw [first, second] at before
  exact Int.lt_of_add_lt_add_left before

end Tables

end ChatSpaces
