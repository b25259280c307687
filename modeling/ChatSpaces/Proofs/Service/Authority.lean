import ChatSpaces.Proofs.Service.Course
import ChatSpaces.Proofs.Service.Refusal

/-!
# What moderators may do

Spaces and channels are renamed by those who moderate the space, and messages are deleted by their author or by those
who moderate the space of their channel. The space is found by a way of its own each time: it is named, it is joined to
the channel, or it is looked up in the channel of the message. It is always the one that the named row lies in, and
roles in other spaces count for nothing.
-/

namespace ChatSpaces.Service

open Request (LengthWithin LengthUpTo)
open Time (Instant)

variable {c : Context} {t u : Tables}

def Moderates (t : Tables) (space user : Ident) : Prop :=
  ∃ m, t.spaceMembers.get? (space, user) = some m ∧ (m.role = .admin ∨ m.role = .owner)

def Call.moderates : Call → Bool
  | renameSpace .. | renameChannel .. | deleteMessageAs .. => true
  | _ => false

/-- What such a call asks for, of the request, of the named row and of who makes it. -/
inductive Authorized (t : Tables) : Call → Prop
  | renameSpace {actor space r} (name : LengthWithin 1 100 r.name) (description : LengthUpTo 1000 r.description)
      (live : LiveSpace t space) (moderator : Moderates t space actor) : Authorized t (.renameSpace actor space r)
  | renameChannel {actor channel r ch} (name : LengthWithin 1 100 r.name) (found : t.channels.get? channel = some ch)
      (opened : t.OpenChannel channel) (moderator : Moderates t ch.space actor) :
      Authorized t (.renameChannel actor channel r)
  | deleteOwn {actor i m} (found : t.messages.get? i = some m) (exposed : t.Exposed m) (author : m.author = actor) :
      Authorized t (.deleteMessageAs actor i)
  | deleteOther {actor i m ch} (found : t.messages.get? i = some m) (exposed : t.Exposed m)
      (channel : t.channels.get? m.channel = some ch) (moderator : Moderates t ch.space actor) :
      Authorized t (.deleteMessageAs actor i)

/-- Why such a call is refused. A reason counts where none of those before it applies. -/
inductive Overruled (t : Tables) : Call → Refusal → Prop
  | invalidSpace {actor space r} (wrong : ¬ (LengthWithin 1 100 r.name ∧ LengthUpTo 1000 r.description)) :
      Overruled t (.renameSpace actor space r) (Request.refusal r.problems)
  | noSpace {actor space r} (name : LengthWithin 1 100 r.name) (description : LengthUpTo 1000 r.description)
      (gone : ¬ LiveSpace t space) : Overruled t (.renameSpace actor space r) (.failed (.spaceNotFound space))
  | notInSpace {actor space r} (name : LengthWithin 1 100 r.name) (description : LengthUpTo 1000 r.description)
      (live : LiveSpace t space) (other : ¬ Moderates t space actor) :
      Overruled t (.renameSpace actor space r) (.failed (.violation (.notSpaceModerator space)))
  | invalidChannel {actor channel r} (wrong : ¬ LengthWithin 1 100 r.name) :
      Overruled t (.renameChannel actor channel r) (Request.refusal r.problems)
  | noChannel {actor channel r} (name : LengthWithin 1 100 r.name) (gone : ¬ t.OpenChannel channel) :
      Overruled t (.renameChannel actor channel r) (.failed (.channelNotFound channel))
  | notInParent {actor channel r ch} (name : LengthWithin 1 100 r.name) (found : t.channels.get? channel = some ch)
      (opened : t.OpenChannel channel) (other : ¬ Moderates t ch.space actor) :
      Overruled t (.renameChannel actor channel r) (.failed (.violation (.notSpaceModerator ch.space)))
  | noMessage {actor i} (gone : ∀ m, t.messages.get? i = some m → ¬ t.Exposed m) :
      Overruled t (.deleteMessageAs actor i) (.failed (.messageNotFound i))
  | notOwn {actor i m ch} (found : t.messages.get? i = some m) (exposed : t.Exposed m) (foreign : m.author ≠ actor)
      (channel : t.channels.get? m.channel = some ch) (other : ¬ Moderates t ch.space actor) :
      Overruled t (.deleteMessageAs actor i) (.failed (.violation .notAuthorOrModerator))

/-- What such a call answers and leaves: one row is another, and of that row only what the call is about. -/
inductive Exercised (now : Instant) (t : Tables) : Call → Answer → Tables → Prop
  | renameSpace {actor space r s left}
      (replaces : t.spaces.Replaces left space s
        { s with name := r.name, description := r.description.getD s.description, updatedAt := now }) :
      Exercised now t (.renameSpace actor space r)
        (.one .space { s with name := r.name, description := r.description.getD s.description, updatedAt := now })
        { t with spaces := left }
  | renameChannel {actor channel r ch left}
      (replaces : t.channels.Replaces left channel ch { ch with name := r.name, updatedAt := now }) :
      Exercised now t (.renameChannel actor channel r)
        (.one .channel { ch with name := r.name, updatedAt := now }) { t with channels := left }
  | deleteMessageAs {actor i m left}
      (replaces : t.messages.Replaces left i m { m with deleted := true, updatedAt := now }) :
      Exercised now t (.deleteMessageAs actor i) .done { t with messages := left }

/-- The space whose moderators the call is open to. Authors need none for their own messages. -/
inductive Governed (t : Tables) : Call → Ident → Ident → Prop
  | renameSpace {actor space r} : Governed t (.renameSpace actor space r) actor space
  | renameChannel {actor channel r ch} (found : t.channels.get? channel = some ch) :
      Governed t (.renameChannel actor channel r) actor ch.space
  | deleteMessageAs {actor i m ch} (found : t.messages.get? i = some m) (foreign : m.author ≠ actor)
      (channel : t.channels.get? m.channel = some ch) : Governed t (.deleteMessageAs actor i) actor ch.space

theorem isModerator_iff {space user : Ident} : isModerator t space user = true ↔ Moderates t space user := by
  have may (m : SpaceMember) : m.canModerate = true ↔ m.role = .admin ∨ m.role = .owner := by
    rw [SpaceMember.canModerate]
    cases m.role <;> decide
  simp only [isModerator, Tables.spaceMember?, Option.any_eq_true, may, Moderates]

theorem isModerator_eq_false_iff {space user : Ident} :
    isModerator t space user = false ↔ ¬ Moderates t space user := by
  rw [← isModerator_iff, Bool.not_eq_true]

theorem space?_live_eq_some_iff {space : Ident} {s : Space} :
    t.space? .live space = some s ↔ t.spaces.get? space = some s ∧ s.deleted = false := by
  simp [Tables.space?, Option.filter_eq_some_iff]

theorem space?_live_eq_none_iff {space : Ident} : t.space? .live space = none ↔ ¬ LiveSpace t space := by
  simp only [Option.eq_none_iff_forall_ne_some, ne_eq, space?_live_eq_some_iff, LiveSpace, not_exists]

theorem openChannel_iff_joined {channel : Ident} :
    t.OpenChannel channel ↔ ∃ j, (t.channelInSpace? .live channel).filter (·.spaceIsLive) = some j := by
  simp only [Tables.openChannel_iff, Option.filter_eq_some_iff]

theorem parent_of_joined (keyed : t.Keyed) {channel : Ident} {j : ChannelInSpace}
    (joined : (t.channelInSpace? .live channel).filter (·.spaceIsLive) = some j) :
    t.channels.get? channel = some j.channel ∧ j.space.id = j.channel.space := by
  obtain ⟨found, space, -⟩ := Tables.channelInSpace?_live_eq_some_iff.mp (Option.filter_eq_some_iff.mp joined).1
  exact ⟨found, keyed.spaces _ _ space⟩

theorem renameSpace_problems {r : RenameSpace} :
    r.problems = [] ↔ LengthWithin 1 100 r.name ∧ LengthUpTo 1000 r.description := by
  simp only [RenameSpace.problems, List.append_eq_nil_iff, Request.problemUnless_eq_nil_iff, and_comm]

theorem renameChannel_problems {r : RenameChannel} : r.problems = [] ↔ LengthWithin 1 100 r.name :=
  Request.problemUnless_eq_nil_iff

section Renaming

variable {actor space channel : Ident}

theorem authorized_or_overruled_renameSpace (t : Tables) (actor space : Ident) (r : RenameSpace) :
    Authorized t (.renameSpace actor space r) ∨ ∃ refusal, Overruled t (.renameSpace actor space r) refusal := by
  by_cases valid : LengthWithin 1 100 r.name ∧ LengthUpTo 1000 r.description
  · obtain ⟨name, description⟩ := valid
    by_cases live : LiveSpace t space
    · by_cases moderator : Moderates t space actor
      · exact .inl (.renameSpace name description live moderator)
      · exact .inr ⟨_, .notInSpace name description live moderator⟩
    · exact .inr ⟨_, .noSpace name description live⟩
  · exact .inr ⟨_, .invalidSpace valid⟩

theorem renameSpace_of_authorized (keyed : t.Keyed) {r : RenameSpace}
    (authorized : Authorized t (.renameSpace actor space r)) :
    ∃ s u, (renameSpace c actor space r).Yields [] t (.ok s) u := by
  cases authorized with
  | renameSpace name description live moderator =>
    obtain ⟨s, found, stays⟩ := live
    have seen : t.space? .live space = some s := space?_live_eq_some_iff.mpr ⟨found, stays⟩
    let renamed : Space :=
      { s with name := r.name, description := r.description.getD s.description, updatedAt := c.now }
    have ok : t.updateSpace? renamed ≠ none := updateSpace?_ne_none keyed seen _ _ _
    obtain ⟨u, ok⟩ := Option.ne_none_iff_exists'.mp ok
    refine ⟨renamed, u, ?_⟩
    simp only [renameSpace, Action.demandSpace, Action.yields_check_bind, Action.yields_openUnit_bind,
      Action.yields_demand_bind, yields_requireModerator_bind, Action.yields_changeOr_bind,
      Action.yields_commitUnit_bind, Action.yields_pure, true_and]
    exact ⟨renameSpace_problems.mpr ⟨name, description⟩, s, seen, isModerator_iff.mpr moderator, u, ok, rfl, rfl⟩

theorem renameSpace_of_overruled {r : RenameSpace} {refusal : Refusal}
    (overruled : Overruled t (.renameSpace actor space r) refusal) :
    (renameSpace c actor space r).Yields [] t (.error refusal) t := by
  simp only [renameSpace, Action.demandSpace, Action.refused_check_bind, Action.yields_openUnit_bind,
    Action.refused_demand_bind, refused_requireModerator_bind, ne_eq, renameSpace_problems, true_and, and_true]
  cases overruled with
  | invalidSpace wrong => exact .inl ⟨wrong, rfl⟩
  | noSpace name description gone =>
    exact .inr ⟨⟨name, description⟩, .inl ⟨space?_live_eq_none_iff.mpr gone, rfl⟩⟩
  | notInSpace name description live other =>
    obtain ⟨s, found, stays⟩ := live
    have seen : t.space? .live space = some s := space?_live_eq_some_iff.mpr ⟨found, stays⟩
    exact .inr ⟨⟨name, description⟩, .inr ⟨s, seen, .inl ⟨isModerator_eq_false_iff.mpr other, rfl⟩⟩⟩

theorem authorized_or_overruled_renameChannel (t : Tables) (actor channel : Ident) (r : RenameChannel) :
    Authorized t (.renameChannel actor channel r) ∨
      ∃ refusal, Overruled t (.renameChannel actor channel r) refusal := by
  by_cases name : LengthWithin 1 100 r.name
  · by_cases opened : t.OpenChannel channel
    · have ⟨ch, s, found, _⟩ := opened
      by_cases moderator : Moderates t ch.space actor
      · exact .inl (.renameChannel name found opened moderator)
      · exact .inr ⟨_, .notInParent name found opened moderator⟩
    · exact .inr ⟨_, .noChannel name opened⟩
  · exact .inr ⟨_, .invalidChannel name⟩

theorem renameChannel_of_authorized (keyed : t.Keyed) {r : RenameChannel}
    (authorized : Authorized t (.renameChannel actor channel r)) :
    ∃ ch u, (renameChannel c actor channel r).Yields [] t (.ok ch) u := by
  cases authorized with
  | renameChannel name found opened moderator =>
    obtain ⟨j, joined⟩ := openChannel_iff_joined.mp opened
    obtain ⟨found', parent⟩ := parent_of_joined keyed joined
    cases found.symm.trans found'
    let renamed : Channel := { j.channel with name := r.name, updatedAt := c.now }
    have ok : t.updateChannel? renamed ≠ none := updateChannel?_ne_none keyed (liveChannel_of_joined joined) _ _
    obtain ⟨u, ok⟩ := Option.ne_none_iff_exists'.mp ok
    refine ⟨renamed, u, ?_⟩
    simp only [renameChannel, Action.demandOpenChannel, Action.yields_check_bind, Action.yields_openUnit_bind,
      Action.yields_demand_bind, yields_requireModerator_bind, Action.yields_changeOr_bind,
      Action.yields_commitUnit_bind, Action.yields_pure, true_and]
    exact ⟨renameChannel_problems.mpr name, j, joined, isModerator_iff.mpr (parent ▸ moderator), u, ok, rfl, rfl⟩

theorem renameChannel_of_overruled (keyed : t.Keyed) {r : RenameChannel} {refusal : Refusal}
    (overruled : Overruled t (.renameChannel actor channel r) refusal) :
    (renameChannel c actor channel r).Yields [] t (.error refusal) t := by
  simp only [renameChannel, Action.demandOpenChannel, Action.refused_check_bind, Action.yields_openUnit_bind,
    Action.refused_demand_bind, refused_requireModerator_bind, ne_eq, renameChannel_problems, true_and, and_true]
  cases overruled with
  | invalidChannel wrong => exact .inl ⟨wrong, rfl⟩
  | noChannel name gone =>
    have none := Option.eq_none_iff_forall_ne_some.mpr fun j joined => gone (openChannel_iff_joined.mpr ⟨j, joined⟩)
    exact .inr ⟨name, .inl ⟨none, rfl⟩⟩
  | notInParent name found opened other =>
    obtain ⟨j, joined⟩ := openChannel_iff_joined.mp opened
    obtain ⟨found', parent⟩ := parent_of_joined keyed joined
    cases found.symm.trans found'
    rw [← parent] at other ⊢
    exact .inr ⟨name, .inr ⟨j, joined, .inl ⟨isModerator_eq_false_iff.mpr other, rfl⟩⟩⟩

end Renaming

section Deletion

variable {actor i : Ident}

theorem authorized_or_overruled_deleteMessageAs (linked : t.Linked) (actor i : Ident) :
    Authorized t (.deleteMessageAs actor i) ∨ ∃ refusal, Overruled t (.deleteMessageAs actor i) refusal := by
  by_cases gone : ∀ m, t.messages.get? i = some m → ¬ t.Exposed m
  · exact .inr ⟨_, .noMessage gone⟩
  · simp only [not_forall, not_not] at gone
    obtain ⟨m, found, exposed⟩ := gone
    obtain ⟨ch, channel⟩ := Table.contains_eq_true_iff.mp (linked.messageChannel _ _ found)
    by_cases author : m.author = actor
    · exact .inl (.deleteOwn found exposed author)
    · by_cases moderator : Moderates t ch.space actor
      · exact .inl (.deleteOther found exposed channel moderator)
      · exact .inr ⟨_, .notOwn found exposed author channel moderator⟩

/-- Whoever wrote the message or moderates the space of its channel gets past the look at the author. -/
theorem deleteMessageAs_of_may {m : Message} (live : t.message? .live i = some m)
    (may : m.author = actor ∨ ∃ ch, t.channel? .all m.channel = some ch ∧ isModerator t ch.space actor = true) :
    ∃ u, (deleteMessageAs c actor i).Yields [] t (.ok ()) u := by
  refine ⟨(t.deleteMessage? i c.now).getD t, ?_⟩
  simp only [deleteMessageAs, Action.demandMessage, Action.yields_openUnit_bind, Action.yields_demand_bind]
  refine ⟨m, live, ?_⟩
  by_cases author : m.author = actor
  · rw [if_neg fun foreign => Message.not_isAuthor_iff.mp foreign author]
    simp only [Action.yields_change_bind, Action.yields_commitUnit, and_self]
  · rw [if_pos (Message.not_isAuthor_iff.mpr author)]
    obtain ⟨ch, channel, moderator⟩ := may.resolve_left author
    simp only [Action.yields_demand_bind, Action.yields_see_bind]
    refine ⟨ch, channel, ?_⟩
    rw [if_neg (by simp [moderator])]
    simp only [Action.yields_change_bind, Action.yields_commitUnit, and_self]

theorem deleteMessageAs_of_authorized (authorized : Authorized t (.deleteMessageAs actor i)) :
    ∃ u, (deleteMessageAs c actor i).Yields [] t (.ok ()) u := by
  cases authorized with
  | deleteOwn found exposed author =>
    exact deleteMessageAs_of_may (Tables.message?_live_eq_some_iff.mpr ⟨found, exposed⟩) (.inl author)
  | @deleteOther _ _ m ch found exposed channel moderator =>
    have seen : t.channel? .all m.channel = some ch := by rw [Tables.channel?_all, channel]
    exact deleteMessageAs_of_may (Tables.message?_live_eq_some_iff.mpr ⟨found, exposed⟩)
      (.inr ⟨ch, seen, isModerator_iff.mpr moderator⟩)

theorem deleteMessageAs_of_overruled {refusal : Refusal} (overruled : Overruled t (.deleteMessageAs actor i) refusal) :
    (deleteMessageAs c actor i).Yields [] t (.error refusal) t := by
  simp only [deleteMessageAs, Action.demandMessage, Action.yields_openUnit_bind, Action.refused_demand_bind, true_and,
    and_true]
  cases overruled with
  | noMessage gone => exact .inl ⟨Tables.message?_live_eq_none_iff.mpr gone, rfl⟩
  | @notOwn _ _ m ch found exposed foreign channel other =>
    refine .inr ⟨m, Tables.message?_live_eq_some_iff.mpr ⟨found, exposed⟩, ?_⟩
    rw [if_pos (Message.not_isAuthor_iff.mpr foreign)]
    simp only [Action.refused_demand_bind, Action.yields_see_bind, Tables.channel?_all]
    refine .inr ⟨ch, channel, ?_⟩
    rw [if_pos (by simp [isModerator_eq_false_iff.mpr other])]
    exact Action.refused_fail_bind.mpr ⟨rfl, rfl, rfl⟩

end Deletion

theorem Governed.not_authorized {call : Call} {actor space : Ident} (governed : Governed t call actor space)
    (other : ¬ Moderates t space actor) : ¬ Authorized t call := by
  intro authorized
  cases governed with
  | renameSpace =>
    cases authorized with
    | renameSpace _ _ _ moderator => exact other moderator
  | renameChannel found =>
    cases authorized with
    | renameChannel _ found' _ moderator =>
      cases found.symm.trans found'
      exact other moderator
  | deleteMessageAs found foreign channel =>
    cases authorized with
    | deleteOwn found' _ author =>
      cases found.symm.trans found'
      exact foreign author
    | deleteOther found' _ channel' moderator =>
      cases found.symm.trans found'
      cases channel.symm.trans channel'
      exact other moderator

theorem exercised_of_effect (keyed : t.Keyed) {call : Call} {l : List Ident} {a : Answer}
    (effect : Effect c t call l a u) (moderates : call.moderates = true) : Exercised c.now t call a u := by
  cases effect with
  | renameSpace _ live _ made ok =>
    obtain ⟨found, -⟩ := space?_live_eq_some_iff.mp live
    obtain rfl := keyed.spaces _ _ found
    obtain ⟨stored, found', -, rfl⟩ := Tables.updateSpace?_eq_some_iff.mp ok
    subst made
    cases found.symm.trans found'
    exact .renameSpace (Table.replaces_insert found _)
  | renameChannel _ live _ made ok =>
    obtain ⟨found, -⟩ := parent_of_joined keyed live
    obtain rfl := keyed.channels _ _ found
    obtain ⟨stored, found', -, rfl⟩ := Tables.updateChannel?_eq_some_iff.mp ok
    subst made
    cases found.symm.trans found'
    exact .renameChannel (Table.replaces_insert found _)
  | deleteMessageAs live _ ok =>
    obtain ⟨found, stays, -⟩ := Tables.message?_live_eq_some_iff.mp live
    obtain ⟨stored, found', rfl⟩ := Tables.deleteMessage?_eq_some_iff.mp ok
    cases found.symm.trans found'
    rw [if_neg (by simp [stays])]
    exact .deleteMessageAs (Table.replaces_insert found _)
  | look reads =>
    cases call with
    | renameSpace | renameChannel | deleteMessageAs => cases reads
    | _ => cases moderates
  | _ => cases moderates

namespace Deployment

variable {d : Deployment}

theorem moderates_decided (keyed : d.tables.Keyed) (linked : d.tables.Linked) {call : Call}
    (moderates : call.moderates = true) :
    ((∃ a, (d.call call).1 = .ok a) ↔ Authorized d.tables call) ∧
      ∀ refusal, (d.call call).1 = .error refusal ↔ Overruled d.tables call refusal := by
  cases call with
  | renameSpace actor space r =>
    refine call_decided ?_ ?_ (authorized_or_overruled_renameSpace d.tables actor space r)
    · intro authorized
      obtain ⟨s, u, yields⟩ := renameSpace_of_authorized keyed authorized
      exact ⟨_, call_of_yields (Action.yields_map.mpr ⟨s, yields, rfl⟩)⟩
    · exact fun refusal overruled => call_of_yields (Action.map_refused (renameSpace_of_overruled overruled) _)
  | renameChannel actor channel r =>
    refine call_decided ?_ ?_ (authorized_or_overruled_renameChannel d.tables actor channel r)
    · intro authorized
      obtain ⟨ch, u, yields⟩ := renameChannel_of_authorized keyed authorized
      exact ⟨_, call_of_yields (Action.yields_map.mpr ⟨ch, yields, rfl⟩)⟩
    · exact fun refusal overruled => call_of_yields (Action.map_refused (renameChannel_of_overruled keyed overruled) _)
  | deleteMessageAs actor i =>
    refine call_decided ?_ ?_ (authorized_or_overruled_deleteMessageAs linked actor i)
    · intro authorized
      obtain ⟨u, yields⟩ := deleteMessageAs_of_authorized authorized
      exact ⟨_, call_of_yields (Action.yields_map.mpr ⟨(), yields, rfl⟩)⟩
    · exact fun refusal overruled => call_of_yields (Action.map_refused (deleteMessageAs_of_overruled overruled) _)
  | _ => cases moderates

end Deployment

namespace System

variable {ι : Type} [DecidableEq ι]

/-- Whatever clients have done side by side before, under whatever policy and at whatever time: a space or a channel is
renamed, and a message is deleted by somebody, exactly if the request is valid, the named row and all that is above it
are not deleted, and the actor is an admin or the owner of the space that the row lies in, or the author of the message.
What such a call is refused for is exactly the first reason that applies. If it goes through, one row changes: in it the
name, the description if one was given, or the mark, and the time of change. Whoever does not moderate that space is
refused, whatever the roles are that they have in others. -/
theorem authority_stays_in_space {ids : Generator} {ds : List Deed} {s : System ι} (course : Course (start ids) ds s)
    {d : Deployment} (reads : d.tables = s.store.committed) {call : Call} (moderates : call.moderates = true) :
    ((∃ a, (d.call call).1 = .ok a) ↔ Authorized d.tables call) ∧
      (∀ refusal, (d.call call).1 = .error refusal ↔ Overruled d.tables call refusal) ∧
      (∀ a, (d.call call).1 = .ok a → Exercised d.now d.tables call a (d.call call).2.tables) ∧
      ∀ actor space, Governed d.tables call actor space → ¬ Moderates d.tables space actor →
        ∃ refusal, (d.call call).1 = .error refusal := by
  have built : d.tables.Built := reads ▸ course.served.built
  obtain ⟨answered, refused⟩ := Deployment.moderates_decided built.keyed built.linked moderates
  refine ⟨answered, refused, ?_, ?_⟩
  · intro a through
    obtain ⟨l, effect⟩ := Deployment.effect_of_call through
    exact exercised_of_effect built.keyed effect moderates
  · intro actor space governed other
    cases outcome : (d.call call).1 with
    | error refusal => exact ⟨refusal, rfl⟩
    | ok a => exact absurd (answered.mp ⟨a, outcome⟩) (governed.not_authorized other)

/-- User 2 owns space 4 and is a plain member of space 3, which user 1 owns: channel 5 of space 3 is renamed by user 1
and not by user 2. -/
theorem authority_stays_in_space_elsewhere :
    let es : List Deployment.Event := [.call (.createUser ⟨"ann", none⟩), .call (.createUser ⟨"bob", none⟩),
      .call (.createSpace ⟨1⟩ ⟨"home", none⟩), .call (.createSpace ⟨2⟩ ⟨"away", none⟩),
      .call (.createChannel ⟨3⟩ ⟨"news"⟩), .call (.addSpaceMember ⟨3⟩ ⟨2⟩ .member)]
    let d := Deployment.blank.after es
    let rename (actor : Ident) := Call.renameChannel actor ⟨5⟩ ⟨"talk"⟩
    Moderates d.tables ⟨4⟩ ⟨2⟩ ∧
      (d.call (rename ⟨2⟩)).1 = .error (.failed (.violation (.notSpaceModerator ⟨3⟩))) ∧
      ∃ a, (d.call (rename ⟨1⟩)).1 = .ok a := by
  intro es d rename
  let news : Channel := ⟨⟨5⟩, ⟨3⟩, "news", false, .ofMillis 0, .ofMillis 0⟩
  have course : Course (start Deployment.blank.ids) _ _ := course_of_events true Deployment.blank es
  have found : d.tables.channels.get? ⟨5⟩ = some news := by decide
  have opened : d.tables.OpenChannel ⟨5⟩ := Tables.admitsChannel_live_iff.mp (by decide)
  have decided (actor : Ident) :=
    authority_stays_in_space course (d := d) rfl (show (rename actor).moderates = true from rfl)
  refine ⟨isModerator_iff.mp (by decide), ?_, ?_⟩
  · apply ((decided ⟨2⟩).2.1 _).mpr
    exact .notInParent (by decide) found opened (isModerator_eq_false_iff.mp (by decide))
  · apply (decided ⟨1⟩).1.mpr
    exact .renameChannel (by decide) found opened (isModerator_iff.mp (by decide))

end System

end ChatSpaces.Service
