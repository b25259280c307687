import ChatSpaces.Proofs.Table
import ChatSpaces.Tables.Operation

/-!
# What a change of the tables does

For every change the condition under which it succeeds and the tables that it leaves, and for every insertion what
it fails for. `Change` gathers them: whatever an operation does to the tables is one of them, or nothing.
-/

namespace ChatSpaces

open Time (Instant)

namespace Table

variable {κ α : Type} [Key κ] {t u : Table κ α} {k : κ}

theorem erase?_eq_some_iff : t.erase? k = some u ↔ t.contains k = true ∧ u = t.erase k := by
  unfold erase?
  split
  · next there => simp only [Option.some.injEq, there, true_and, eq_comm]
  · next missing => simp [missing]

@[simp] theorem isSome_erase? : (t.erase? k).isSome = t.contains k := by
  unfold erase?
  cases t.contains k <;> rfl

theorem getD_erase? : (t.erase? k).getD t = t.erase k := by
  unfold erase?
  split
  · rfl
  · next missing => rw [Option.getD_none, erase_eq_self (by simpa using missing)]

variable [Deletable α]

theorem amend?_eq_some_iff {change : α → α} : t.amend? k change = some u ↔
    ∃ a, t.get? k = some a ∧ Deletable.deleted a = false ∧ u = t.insert k (change a) := by
  unfold amend?
  cases t.get? k with
  | none => simp
  | some a =>
    simp only [Option.some.injEq, exists_eq_left']
    split
    · next gone => simp [gone]
    · next stays => simp [stays, eq_comm (a := u)]

theorem bury?_eq_some_iff {time : Instant} : t.bury? k time = some u ↔
    ∃ a, t.get? k = some a ∧ u = if Deletable.deleted a then t else t.insert k (Deletable.mark time a) := by
  unfold bury?
  cases t.get? k with
  | none => simp
  | some a =>
    simp only [Option.some.injEq, exists_eq_left']
    split <;> rw [Option.some.injEq, eq_comm]

end Table

namespace Tables

variable {t u : Tables}

theorem guarded_eq_ok_iff {p : Prop} [Decidable p] {f : Failure} {x : Except Failure Tables} :
    (if p then .error f else x) = .ok u ↔ ¬p ∧ x = .ok u := by
  split <;> simp_all

theorem ok_eq_ok_iff {x : Tables} : (.ok x : Except Failure Tables) = .ok u ↔ u = x :=
  ⟨fun h => (Except.ok.inj h).symm, fun h => h ▸ rfl⟩

theorem guarded_eq_error_iff {p : Prop} [Decidable p] {f g : Failure} {x : Except Failure Tables} :
    (if p then .error f else x) = .error g ↔ (p ∧ g = f) ∨ (¬p ∧ x = .error g) := by
  by_cases h : p
  · simp [h, eq_comm]
  · simp [h]

theorem not_ok_eq_error {x : Tables} {f : Failure} : (.ok x : Except Failure Tables) ≠ .error f := nofun

theorem insertUser_eq_ok_iff {x : User} :
    t.insertUser x = .ok u ↔
      t.users.contains x.id = false ∧ (∀ other ∈ t.users.rows, other.username ≠ x.username) ∧
        u = { t with users := t.users.insert x.id x } := by
  simp only [insertUser, guarded_eq_ok_iff, ok_eq_ok_iff, Bool.not_eq_true, List.any_eq_true,
    decide_eq_true_eq, not_exists, not_and]

theorem insertSpace_eq_ok_iff {s : Space} :
    t.insertSpace s = .ok u ↔
      t.users.contains s.owner = true ∧ t.spaces.contains s.id = false ∧
        u = { t with spaces := t.spaces.insert s.id s } := by
  simp only [insertSpace, guarded_eq_ok_iff, ok_eq_ok_iff, Bool.not_eq_true', Bool.not_eq_true,
    Bool.not_eq_false]

theorem insertChannel_eq_ok_iff {c : Channel} :
    t.insertChannel c = .ok u ↔
      t.spaces.contains c.space = true ∧ t.channels.contains c.id = false ∧
        u = { t with channels := t.channels.insert c.id c } := by
  simp only [insertChannel, guarded_eq_ok_iff, ok_eq_ok_iff, Bool.not_eq_true', Bool.not_eq_true,
    Bool.not_eq_false]

theorem insertSpaceMember_eq_ok_iff {m : SpaceMember} :
    t.insertSpaceMember m = .ok u ↔
      t.spaces.contains m.space = true ∧ t.users.contains m.user = true ∧
        t.spaceMembers.contains (m.space, m.user) = false ∧
        u = { t with spaceMembers := t.spaceMembers.insert (m.space, m.user) m } := by
  simp only [insertSpaceMember, guarded_eq_ok_iff, ok_eq_ok_iff, Bool.not_eq_true', Bool.not_eq_true,
    Bool.not_eq_false]

theorem insertChannelMember_eq_ok_iff {m : ChannelMember} :
    t.insertChannelMember m = .ok u ↔
      t.channels.contains m.channel = true ∧ t.users.contains m.user = true ∧
        t.channelMembers.contains (m.channel, m.user) = false ∧
        u = { t with channelMembers := t.channelMembers.insert (m.channel, m.user) m } := by
  simp only [insertChannelMember, guarded_eq_ok_iff, ok_eq_ok_iff, Bool.not_eq_true', Bool.not_eq_true,
    Bool.not_eq_false]

theorem insertMessage_eq_ok_iff {m : Message} :
    t.insertMessage m = .ok u ↔
      t.channels.contains m.channel = true ∧ t.users.contains m.author = true ∧
        t.messages.contains m.id = false ∧ u = { t with messages := t.messages.insert m.id m } := by
  simp only [insertMessage, guarded_eq_ok_iff, ok_eq_ok_iff, Bool.not_eq_true', Bool.not_eq_true,
    Bool.not_eq_false]

theorem insertMedia_eq_ok_iff {m : Media} :
    t.insertMedia m = .ok u ↔
      t.messages.contains m.message = true ∧ t.media.contains m.id = false ∧
        u = { t with media := t.media.insert m.id m } := by
  simp only [insertMedia, guarded_eq_ok_iff, ok_eq_ok_iff, Bool.not_eq_true', Bool.not_eq_true,
    Bool.not_eq_false]

theorem putRestraint_eq_ok_iff {r : Restraint} :
    t.putRestraint r = .ok u ↔
      t.users.contains r.user = true ∧
        u = { t with restraints := t.restraints.insert (r.scope, r.user) r } := by
  simp only [putRestraint, guarded_eq_ok_iff, ok_eq_ok_iff, Bool.not_eq_true', Bool.not_eq_false]

section Failing

variable {f : Failure}

theorem insertUser_eq_error_iff {x : User} :
    t.insertUser x = .error f ↔
      (t.users.contains x.id = true ∧ f = .duplicate ("user " ++ x.id.toText)) ∨
      (t.users.contains x.id = false ∧ (∃ other ∈ t.users.rows, other.username = x.username) ∧
        f = .duplicate ("username " ++ x.username)) := by
  simp only [insertUser, guarded_eq_error_iff, not_ok_eq_error, and_false, or_false, Bool.not_eq_true,
    List.any_eq_true, decide_eq_true_eq]

theorem insertSpace_eq_error_iff {s : Space} :
    t.insertSpace s = .error f ↔
      (t.users.contains s.owner = false ∧ f = .missingParent "spaces.owner_id") ∨
      (t.users.contains s.owner = true ∧ t.spaces.contains s.id = true ∧ f = .duplicate ("space " ++ s.id.toText)) := by
  simp only [insertSpace, guarded_eq_error_iff, not_ok_eq_error, and_false, or_false, Bool.not_eq_true',
    Bool.not_eq_false]

theorem insertChannel_eq_error_iff {c : Channel} :
    t.insertChannel c = .error f ↔
      (t.spaces.contains c.space = false ∧ f = .missingParent "channels.space_id") ∨
      (t.spaces.contains c.space = true ∧ t.channels.contains c.id = true ∧
        f = .duplicate ("channel " ++ c.id.toText)) := by
  simp only [insertChannel, guarded_eq_error_iff, not_ok_eq_error, and_false, or_false, Bool.not_eq_true',
    Bool.not_eq_false]

theorem insertSpaceMember_eq_error_iff {m : SpaceMember} :
    t.insertSpaceMember m = .error f ↔
      (t.spaces.contains m.space = false ∧ f = .missingParent "space_members.space_id") ∨
      (t.spaces.contains m.space = true ∧
        ((t.users.contains m.user = false ∧ f = .missingParent "space_members.user_id") ∨
        (t.users.contains m.user = true ∧ t.spaceMembers.contains (m.space, m.user) = true ∧
          f = .alreadySpaceMember m.space m.user))) := by
  simp only [insertSpaceMember, guarded_eq_error_iff, not_ok_eq_error, and_false, or_false, Bool.not_eq_true',
    Bool.not_eq_false]

theorem insertChannelMember_eq_error_iff {m : ChannelMember} :
    t.insertChannelMember m = .error f ↔
      (t.channels.contains m.channel = false ∧ f = .missingParent "channel_members.channel_id") ∨
      (t.channels.contains m.channel = true ∧
        ((t.users.contains m.user = false ∧ f = .missingParent "channel_members.user_id") ∨
        (t.users.contains m.user = true ∧ t.channelMembers.contains (m.channel, m.user) = true ∧
          f = .alreadyChannelMember m.channel m.user))) := by
  simp only [insertChannelMember, guarded_eq_error_iff, not_ok_eq_error, and_false, or_false, Bool.not_eq_true',
    Bool.not_eq_false]

theorem insertMessage_eq_error_iff {m : Message} :
    t.insertMessage m = .error f ↔
      (t.channels.contains m.channel = false ∧ f = .missingParent "messages.channel_id") ∨
      (t.channels.contains m.channel = true ∧
        ((t.users.contains m.author = false ∧ f = .missingParent "messages.author_id") ∨
        (t.users.contains m.author = true ∧ t.messages.contains m.id = true ∧
          f = .duplicate ("message " ++ m.id.toText)))) := by
  simp only [insertMessage, guarded_eq_error_iff, not_ok_eq_error, and_false, or_false, Bool.not_eq_true',
    Bool.not_eq_false]

theorem insertMedia_eq_error_iff {m : Media} :
    t.insertMedia m = .error f ↔
      (t.messages.contains m.message = false ∧ f = .missingParent "media.message_id") ∨
      (t.messages.contains m.message = true ∧ t.media.contains m.id = true ∧
        f = .duplicate ("media " ++ m.id.toText)) := by
  simp only [insertMedia, guarded_eq_error_iff, not_ok_eq_error, and_false, or_false, Bool.not_eq_true',
    Bool.not_eq_false]

theorem putRestraint_eq_error_iff {r : Restraint} :
    t.putRestraint r = .error f ↔
      t.users.contains r.user = false ∧ f = .missingParent "restrained_members.user_id" := by
  simp only [putRestraint, guarded_eq_error_iff, not_ok_eq_error, and_false, or_false, Bool.not_eq_true']

end Failing

section Rows

variable {κ α : Type} [Key κ] {x : Table κ α} {k : κ} {put : Table κ α → Tables}

theorem erased_eq_some_iff :
    (x.erase? k).map put = some u ↔ x.contains k = true ∧ u = put (x.erase k) := by
  simp only [Option.map_eq_some_iff, Table.erase?_eq_some_iff, and_assoc, exists_and_left, exists_eq_left,
    eq_comm (a := u)]

theorem getD_erased (same : put x = t) : ((x.erase? k).map put).getD t = put (x.erase k) := by
  rw [← same, Option.getD_map, Table.getD_erase?]

theorem isSome_erased : ((x.erase? k).map put).isSome = x.contains k := by
  rw [Option.isSome_map, Table.isSome_erase?]

variable [Deletable α]

theorem amended_eq_some_iff {change : α → α} : (x.amend? k change).map put = some u ↔
    ∃ a, x.get? k = some a ∧ Deletable.deleted a = false ∧ u = put (x.insert k (change a)) := by
  simp only [Option.map_eq_some_iff, Table.amend?_eq_some_iff]
  constructor
  · rintro ⟨_, ⟨a, found, stays, rfl⟩, rfl⟩
    exact ⟨a, found, stays, rfl⟩
  · rintro ⟨a, found, stays, rfl⟩
    exact ⟨_, ⟨a, found, stays, rfl⟩, rfl⟩

theorem buried_eq_some_iff (same : put x = t) {time : Instant} : (x.bury? k time).map put = some u ↔
    ∃ a, x.get? k = some a ∧ u = if Deletable.deleted a then t else put (x.insert k (Deletable.mark time a)) := by
  simp only [Option.map_eq_some_iff, Table.bury?_eq_some_iff, ← same, ← apply_ite put]
  constructor
  · rintro ⟨_, ⟨a, found, rfl⟩, rfl⟩
    exact ⟨a, found, rfl⟩
  · rintro ⟨a, found, rfl⟩
    exact ⟨_, ⟨a, found, rfl⟩, rfl⟩

end Rows

theorem updateSpace?_eq_some_iff {s : Space} :
    t.updateSpace? s = some u ↔ ∃ stored, t.spaces.get? s.id = some stored ∧ stored.deleted = false ∧
      u = { t with
        spaces := t.spaces.insert s.id
          { stored with name := s.name, description := s.description, updatedAt := s.updatedAt } } :=
  amended_eq_some_iff

theorem updateChannel?_eq_some_iff {c : Channel} :
    t.updateChannel? c = some u ↔ ∃ stored, t.channels.get? c.id = some stored ∧ stored.deleted = false ∧
      u = { t with
        channels := t.channels.insert c.id
          { stored with name := c.name, updatedAt := c.updatedAt } } :=
  amended_eq_some_iff

theorem updateMessage?_eq_some_iff {m : Message} :
    t.updateMessage? m = some u ↔ ∃ stored, t.messages.get? m.id = some stored ∧ stored.deleted = false ∧
      u = { t with
        messages := t.messages.insert m.id
          { stored with body := m.body, updatedAt := m.updatedAt } } :=
  amended_eq_some_iff

theorem deleteSpace?_eq_some_iff {id : Ident} {time : Instant} :
    t.deleteSpace? id time = some u ↔ ∃ s, t.spaces.get? id = some s ∧
      u = if s.deleted then t
        else { t with spaces := t.spaces.insert id { s with deleted := true, updatedAt := time } } :=
  buried_eq_some_iff rfl

theorem deleteChannel?_eq_some_iff {id : Ident} {time : Instant} :
    t.deleteChannel? id time = some u ↔ ∃ c, t.channels.get? id = some c ∧
      u = if c.deleted then t
        else { t with channels := t.channels.insert id { c with deleted := true, updatedAt := time } } :=
  buried_eq_some_iff rfl

theorem deleteMessage?_eq_some_iff {id : Ident} {time : Instant} :
    t.deleteMessage? id time = some u ↔ ∃ m, t.messages.get? id = some m ∧
      u = if m.deleted then t
        else { t with messages := t.messages.insert id { m with deleted := true, updatedAt := time } } :=
  buried_eq_some_iff rfl

theorem setRole?_eq_some_iff {space user : Ident} {role : Role} {m : SpaceMember} :
    t.setRole? space user role = some (m, u) ↔ ∃ stored, t.spaceMembers.get? (space, user) = some stored ∧
      m = { stored with role := role } ∧
      u = { t with spaceMembers := t.spaceMembers.insert (space, user) { stored with role := role } } := by
  simp only [setRole?, Option.map_eq_some_iff, Prod.mk.injEq]
  exact exists_congr fun stored => and_congr_right fun _ => and_congr eq_comm eq_comm

theorem removeSpaceMember?_eq_some_iff {space user : Ident} :
    t.removeSpaceMember? space user = some u ↔ t.spaceMembers.contains (space, user) = true ∧
      u = { t with spaceMembers := t.spaceMembers.erase (space, user) } := erased_eq_some_iff

theorem removeChannelMember?_eq_some_iff {channel user : Ident} :
    t.removeChannelMember? channel user = some u ↔ t.channelMembers.contains (channel, user) = true ∧
      u = { t with channelMembers := t.channelMembers.erase (channel, user) } := erased_eq_some_iff

theorem removeRestraint?_eq_some_iff {scope : Scope} {user : Ident} :
    t.removeRestraint? scope user = some u ↔ t.restraints.contains (scope, user) = true ∧
      u = { t with restraints := t.restraints.erase (scope, user) } := erased_eq_some_iff

theorem getD_removeSpaceMember? (space user : Ident) :
    (t.removeSpaceMember? space user).getD t =
      { t with spaceMembers := t.spaceMembers.erase (space, user) } := getD_erased rfl

theorem getD_removeChannelMember? (channel user : Ident) :
    (t.removeChannelMember? channel user).getD t =
      { t with channelMembers := t.channelMembers.erase (channel, user) } := getD_erased rfl

theorem getD_removeRestraint? (scope : Scope) (user : Ident) :
    (t.removeRestraint? scope user).getD t =
      { t with restraints := t.restraints.erase (scope, user) } := getD_erased rfl

theorem isSome_removeSpaceMember? (space user : Ident) :
    (t.removeSpaceMember? space user).isSome = t.spaceMembers.contains (space, user) := isSome_erased

theorem isSome_removeChannelMember? (channel user : Ident) :
    (t.removeChannelMember? channel user).isSome = t.channelMembers.contains (channel, user) := isSome_erased

theorem isSome_removeRestraint? (scope : Scope) (user : Ident) :
    (t.removeRestraint? scope user).isSome = t.restraints.contains (scope, user) := isSome_erased

/-- What one operation can do to the tables. -/
inductive Change (t : Tables) : Tables → Prop
  | none : Change t t
  | insertUser {x u} : t.insertUser x = .ok u → Change t u
  | insertSpace {s u} : t.insertSpace s = .ok u → Change t u
  | updateSpace {s u} : t.updateSpace? s = some u → Change t u
  | deleteSpace {id time u} : t.deleteSpace? id time = some u → Change t u
  | insertChannel {c u} : t.insertChannel c = .ok u → Change t u
  | updateChannel {c u} : t.updateChannel? c = some u → Change t u
  | deleteChannel {id time u} : t.deleteChannel? id time = some u → Change t u
  | insertSpaceMember {m u} : t.insertSpaceMember m = .ok u → Change t u
  | setRole {space user role m u} : t.setRole? space user role = some (m, u) → Change t u
  | removeSpaceMember {space user u} : t.removeSpaceMember? space user = some u → Change t u
  | insertChannelMember {m u} : t.insertChannelMember m = .ok u → Change t u
  | removeChannelMember {channel user u} : t.removeChannelMember? channel user = some u → Change t u
  | removeChannelMembersIn (space user) : Change t (t.removeChannelMembersIn space user).2
  | putRestraint {r u} : t.putRestraint r = .ok u → Change t u
  | removeRestraint {scope user u} : t.removeRestraint? scope user = some u → Change t u
  | removeExpired (now) : Change t (t.removeExpired now).2
  | insertMessage {m u} : t.insertMessage m = .ok u → Change t u
  | updateMessage {m u} : t.updateMessage? m = some u → Change t u
  | deleteMessage {id time u} : t.deleteMessage? id time = some u → Change t u
  | insertMedia {m u} : t.insertMedia m = .ok u → Change t u

theorem change_of_inserted {x : Except Failure Tables} {answer : Answer}
    (h : inserted x = .ok (answer, u)) (change : ∀ {v}, x = .ok v → Change t v) : Change t u := by
  cases x with
  | error f => cases h
  | ok v =>
    cases h
    exact change rfl

theorem change_of_flagged {x : Option Tables} {answer : Answer}
    (h : (.ok (flagged t x) : Except Failure _) = .ok (answer, u)) (change : ∀ {v}, x = some v → Change t v) :
    Change t u := by
  cases x with
  | none =>
    cases h
    exact .none
  | some v =>
    cases h
    exact change rfl

theorem change_of_apply {o : Operation} {answer : Answer} (h : o.apply t = .ok (answer, u)) :
    Change t u := by
  cases o with
  | insertUser x => exact change_of_inserted h .insertUser
  | insertSpace s => exact change_of_inserted h .insertSpace
  | updateSpace s => exact change_of_flagged h .updateSpace
  | deleteSpace id time => exact change_of_flagged h .deleteSpace
  | insertChannel c => exact change_of_inserted h .insertChannel
  | updateChannel c => exact change_of_flagged h .updateChannel
  | deleteChannel id time => exact change_of_flagged h .deleteChannel
  | insertSpaceMember m => exact change_of_inserted h .insertSpaceMember
  | setRole space user role =>
    cases found : t.setRole? space user role with
    | none =>
      simp only [Operation.apply, found] at h
      cases h
      exact .none
    | some changed =>
      simp only [Operation.apply, found] at h
      cases h
      exact .setRole found
  | removeSpaceMember space user => exact change_of_flagged h .removeSpaceMember
  | insertChannelMember m => exact change_of_inserted h .insertChannelMember
  | removeChannelMember channel user => exact change_of_flagged h .removeChannelMember
  | removeChannelMembersIn space user =>
    cases h
    exact .removeChannelMembersIn space user
  | putRestraint r => exact change_of_inserted h .putRestraint
  | removeRestraint scope user => exact change_of_flagged h .removeRestraint
  | removeExpired now =>
    cases h
    exact .removeExpired now
  | insertMessage m => exact change_of_inserted h .insertMessage
  | updateMessage m => exact change_of_flagged h .updateMessage
  | deleteMessage id time => exact change_of_flagged h .deleteMessage
  | insertMedia m => exact change_of_inserted h .insertMedia
  | findUser | findSpace | findChannel | findChannelsIn | findChannelInSpace | findSpaceMember
  | findSpaceMembers | findChannelMember | findChannelMembers | findRestraint | findRestraintsIn
  | findMessage | findMessagesIn | findMedia | lockUser =>
    cases h
    exact .none

end Tables

end ChatSpaces
