import ChatSpaces.Proofs.Service.Membership

/-!
# Leaving a place

Whoever leaves a space or a channel is told whether there was a membership to end, and nobody is refused. The
answer speaks of one row only, while leaving a space ends memberships in its channels as well. It is the truth all
the same: where channels lie within spaces, a user who is not in a space has nothing left in its channels.
-/

namespace ChatSpaces.Tables

def member? (t : Tables) (user : Ident) : Scope → Option (SpaceMember ⊕ ChannelMember)
  | .space id => (t.spaceMembers.get? (id, user)).map .inl
  | .channel id => (t.channelMembers.get? (id, user)).map .inr

/-- Leaving the one place ends a membership in the other. -/
inductive Ends (t : Tables) : Scope → Scope → Prop
  | here (place : Scope) : Ends t place place
  /-- The channel may be deleted. -/
  | within {channel c} (found : t.channels.get? channel = some c) : Ends t (.space c.space) (.channel channel)

/-- The user has left the place: the memberships that end with it are gone, and nothing else has changed. -/
structure Departs (t : Tables) (place : Scope) (user : Ident) (u : Tables) : Prop where
  gone : ∀ other, t.Ends place other → u.member? user other = none
  kept : ∀ member other, ¬ (member = user ∧ t.Ends place other) → u.member? member other = t.member? member other
  users : u.users = t.users
  spaces : u.spaces = t.spaces
  channels : u.channels = t.channels
  messages : u.messages = t.messages
  media : u.media = t.media
  restraints : u.restraints = t.restraints

def without (t : Tables) (user : Ident) : Scope → Tables
  | .space id => ({ t with spaceMembers := t.spaceMembers.erase (id, user) }.removeChannelMembersIn id user).2
  | .channel id => { t with channelMembers := t.channelMembers.erase (id, user) }

variable {t : Tables} {space channel user member : Ident}

theorem isChannelOf_iff : t.isChannelOf space channel = true ↔ t.Ends (.space space) (.channel channel) := by
  rw [isChannelOf, Option.any_eq_true]
  constructor
  · rintro ⟨c, found, same⟩
    cases of_decide_eq_true same
    exact .within found
  · rintro (_ | found)
    exact ⟨_, found, decide_eq_true rfl⟩

theorem ends_space_iff {other : Ident} : t.Ends (.space space) (.space other) ↔ other = space :=
  ⟨fun | .here _ => rfl, fun same => same ▸ .here _⟩

theorem ends_channel_iff {other : Scope} : t.Ends (.channel channel) other ↔ other = .channel channel :=
  ⟨fun | .here _ => rfl, fun same => same ▸ .here _⟩

/-- The memberships in channels that are left: the filter takes out what ends with the space, and nothing else. -/
theorem channelMember_without_space :
    (t.without user (.space space)).channelMembers.get? (channel, member) =
      if member = user ∧ t.isChannelOf space channel = true then none
      else t.channelMembers.get? (channel, member) := by
  have kept : (t.without user (.space space)).channelMembers.get? (channel, member) =
      (t.channelMembers.get? (channel, member)).filter
        fun _ => !(decide (member = user) && t.isChannelOf space channel) := Table.get?_filter ..
  rw [kept]
  split
  · next ends =>
    rw [decide_eq_true ends.1, ends.2]
    cases t.channelMembers.get? (channel, member) <;> rfl
  · next stays =>
    have passes : (!(decide (member = user) && t.isChannelOf space channel)) = true := by
      simpa [Decidable.imp_iff_not_or] using stays
    rw [passes]
    cases t.channelMembers.get? (channel, member) <;> rfl

theorem departs_without (t : Tables) (place : Scope) (user : Ident) : t.Departs place user (t.without user place) := by
  cases place with
  | space space =>
    constructor
    case gone =>
      intro other ends
      cases other with
      | space id =>
        cases ends_space_iff.mp ends
        simp [member?, without, removeChannelMembersIn]
      | channel id =>
        simp [member?, channelMember_without_space, isChannelOf_iff, ends]
    case kept =>
      intro member other stays
      cases other with
      | space id =>
        have apart : (id, member) ≠ (space, user) := by
          rintro ⟨⟩
          exact stays ⟨rfl, .here _⟩
        simp [member?, without, removeChannelMembersIn, Table.get?_erase, apart]
      | channel id =>
        simp only [member?, channelMember_without_space, isChannelOf_iff, stays, if_false]
    all_goals rfl
  | channel channel =>
    constructor
    case gone =>
      intro other ends
      cases ends_channel_iff.mp ends
      simp [member?, without]
    case kept =>
      intro member other stays
      cases other with
      | space id => rfl
      | channel id =>
        have apart : (id, member) ≠ (channel, user) := by
          rintro ⟨⟩
          exact stays ⟨rfl, .here _⟩
        simp [member?, without, Table.get?_erase, apart]
    all_goals rfl

/-- Where channels lie within spaces, a user without a membership in a place leaves nothing behind by leaving it. -/
theorem without_eq_self (nested : t.Nested) {place : Scope} (outside : t.member? user place = none) :
    t.without user place = t := by
  cases place with
  | space space =>
    have absent : t.spaceMembers.contains (space, user) = false := by
      simpa [member?, Table.contains] using outside
    have members : (t.without user (.space space)).channelMembers = t.channelMembers := by
      apply Table.ext
      rintro ⟨channel, member⟩
      rw [channelMember_without_space]
      split
      · next ends =>
        obtain ⟨rfl, lies⟩ := ends
        symm
        -- A row here would be one of a user in a channel of a space that the user is not in.
        apply Option.eq_none_iff_forall_ne_some.mpr
        intro m found
        obtain ⟨c, there, inside⟩ := nested channel member (Table.contains_of_get? found)
        rw [isChannelOf, there, Option.any_some] at lies
        rw [of_decide_eq_true lies, absent] at inside
        cases inside
      · rfl
    rw [without, removeChannelMembersIn, Table.erase_eq_self absent] at members ⊢
    simp only at members
    rw [members]
  | channel channel =>
    have absent : t.channelMembers.contains (channel, user) = false := by
      simpa [member?, Table.contains] using outside
    rw [without, Table.erase_eq_self absent]

end ChatSpaces.Tables

namespace ChatSpaces.Service.Deployment

variable {d : Deployment} {place : Scope} {user : Ident}

theorem call_removeMember (d : Deployment) (place : Scope) (user : Ident) :
    d.call (.removeMember place user) =
      (.ok (.flag (d.tables.member? user place).isSome), { d with tables := d.tables.without user place }) := by
  cases place with
  | space space =>
    rw [call_leaveSpace, Tables.isSome_removeSpaceMember?, Tables.getD_removeSpaceMember?]
    simp only [Tables.member?, Option.isSome_map, Table.contains, Tables.without]
  | channel channel =>
    have told := Tables.isSome_removeChannelMember? (t := d.tables) channel user
    have left := Tables.getD_removeChannelMember? (t := d.tables) channel user
    simp only [Tables.member?, Option.isSome_map, Tables.without, ← left]
    rw [← Table.contains, ← told]
    simp only [call, work, Call.perform, removeMember, endMembership, Action.run_map, Action.run_bind,
      Action.run_openUnit, Action.run_change]
    cases d.tables.removeChannelMember? channel user <;> rfl

/-- In every state that a service can reach, whoever leaves a space or a channel is answered, and told whether there was
a membership in it. Without one everything is as before, so nothing is left in the channels of the space either. With
one the memberships that end are exactly the user's own in the place and, where it is a space, in its channels, deleted
or not; nobody else's membership changes, nor does a membership elsewhere or a row of another table. Leaving a second
time finds nothing to end. -/
theorem departures_are_exact (h : d.Reachable) (place : Scope) (user : Ident) :
    ∃ removed left, d.call (.removeMember place user) = (.ok (.flag removed), left) ∧
      (removed = true ↔ ∃ row, d.tables.member? user place = some row) ∧
      (removed = false → left = d) ∧
      d.tables.Departs place user left.tables ∧
      left.call (.removeMember place user) = (.ok (.flag false), left) := by
  have departs : d.tables.Departs place user (d.tables.without user place) := Tables.departs_without ..
  have outside : (d.tables.without user place).member? user place = none := departs.gone place (.here place)
  have stays {e : Deployment} (served : Served e.tables) (absent : e.tables.member? user place = none) :
      e.call (.removeMember place user) = (.ok (.flag false), e) := by
    rw [call_removeMember, absent, Tables.without_eq_self served.nested absent]
    rfl
  refine ⟨_, _, call_removeMember d place user, Option.isSome_iff_exists, ?_, departs, ?_⟩
  · intro absent
    have unchanged := stays h.served (Option.not_isSome_iff_eq_none.mp (Bool.not_eq_true _ ▸ absent))
    rw [call_removeMember] at unchanged
    exact congrArg Prod.snd unchanged
  · refine stays ?_ outside
    have next := served_handle h.served (.call (.removeMember place user))
    rw [handle, call_removeMember] at next
    exact next

/-- User 1 leaves space 3, and with it the deleted channel 4, but not space 5; user 2 stays. Leaving space 3 again ends
nothing. -/
theorem departures_are_exact_deleted :
    let d := blank.after [.call (.createUser ⟨"ann", none⟩), .call (.createUser ⟨"bob", none⟩),
      .call (.createSpace ⟨1⟩ ⟨"home", none⟩), .call (.createChannel ⟨3⟩ ⟨"news"⟩),
      .call (.addSpaceMember ⟨3⟩ ⟨2⟩ .member), .call (.addChannelMember ⟨4⟩ ⟨1⟩),
      .call (.addChannelMember ⟨4⟩ ⟨2⟩), .call (.createSpace ⟨1⟩ ⟨"work", none⟩), .call (.deleteContent .channel ⟨4⟩)]
    let leave := Call.removeMember (.space ⟨3⟩) ⟨1⟩
    ∃ left, d.call leave = (.ok (.flag true), left) ∧ left.call leave = (.ok (.flag false), left) ∧
      left.tables.member? ⟨1⟩ (.channel ⟨4⟩) = none ∧
      left.tables.member? ⟨2⟩ (.channel ⟨4⟩) = some (.inr ⟨⟨4⟩, ⟨2⟩, .ofMillis 0⟩) ∧
      left.tables.member? ⟨1⟩ (.space ⟨5⟩) = some (.inl ⟨⟨5⟩, ⟨1⟩, .owner, .ofMillis 0⟩) := by
  intro d leave
  obtain ⟨removed, left, answered, told, -, departs, again⟩ :=
    departures_are_exact (d := d) (reachable_blank_after _) (.space ⟨3⟩) ⟨1⟩
  have member : ∃ row, d.tables.member? ⟨1⟩ (.space ⟨3⟩) = some row := ⟨.inl ⟨⟨3⟩, ⟨1⟩, .owner, .ofMillis 0⟩, by decide⟩
  have deleted : d.tables.channels.get? ⟨4⟩ = some ⟨⟨4⟩, ⟨3⟩, "news", true, .ofMillis 0, .ofMillis 0⟩ := by decide
  have elsewhere : ¬ d.tables.Ends (.space ⟨3⟩) (.space ⟨5⟩) := by
    rw [Tables.ends_space_iff]
    decide
  rw [told.mpr member] at answered
  refine ⟨left, answered, again, departs.gone _ (.within deleted), ?_, ?_⟩
  · rw [departs.kept _ _ fun moved => absurd moved.1 (by decide)]
    decide
  · rw [departs.kept _ _ fun moved => elsewhere moved.2]
    decide

end ChatSpaces.Service.Deployment
