import ChatSpaces.Proofs.Service.Run

/-!
# Who may post

Asking whether a user may post and posting agree, and both come to one condition on the rows of the tables.
A post that is refused is refused for the first of the reasons of `Denied`; nothing is left for the
insertion to object to.
-/

namespace ChatSpaces.Service

open Time (Instant)

variable {c : Context} {t : Tables} {channel user : Ident}

/-- A row restrains the user in the scope: the policy denies its kind, and it has no expiry or one that
is still to come. -/
structure Restrains (c : Context) (t : Tables) (scope : Scope) (user : Ident) (r : Restraint) : Prop where
  row : r ∈ t.restraints.rows
  scope : r.scope = scope
  user : r.user = user
  denied : c.policy.denies r.kind = true
  pending : ∀ e, r.expiresAt = some e → c.now < e

def LiveChannel (t : Tables) (channel : Ident) (ch : Channel) : Prop :=
  t.channels.get? channel = some ch ∧ ch.deleted = false

def LiveSpace (t : Tables) (space : Ident) : Prop := ∃ s, t.spaces.get? space = some s ∧ s.deleted = false

/-- What has to be in the tables for a user to post in a channel. -/
def MayPost (c : Context) (t : Tables) (channel user : Ident) : Prop :=
  ∃ ch, LiveChannel t channel ch ∧ LiveSpace t ch.space ∧
    t.channelMembers.contains (channel, user) = true ∧
    ∀ r, ¬ Restrains c t (.channel channel) user r ∧ ¬ Restrains c t (.space ch.space) user r

/-- Why a user may not post in a channel. A reason counts where none of those before it applies. -/
inductive Denied (c : Context) (t : Tables) (channel user : Ident) : Failure → Prop
  | noChannel (gone : ∀ ch, ¬ LiveChannel t channel ch) : Denied c t channel user (.channelNotFound channel)
  | noSpace {ch} (live : LiveChannel t channel ch) (gone : ¬ LiveSpace t ch.space) :
      Denied c t channel user (.violation (.spaceUnavailable ch.space))
  | noMember {ch} (live : LiveChannel t channel ch) (within : LiveSpace t ch.space)
      (outside : t.channelMembers.contains (channel, user) = false) :
      Denied c t channel user (.violation (.notChannelMember channel))
  | inChannel {ch r} (live : LiveChannel t channel ch) (within : LiveSpace t ch.space)
      (member : t.channelMembers.contains (channel, user) = true)
      (restrains : Restrains c t (.channel channel) user r) :
      Denied c t channel user (.violation (.restrained r.scope r.kind r.expiresAt))
  | inSpace {ch r} (live : LiveChannel t channel ch) (within : LiveSpace t ch.space)
      (member : t.channelMembers.contains (channel, user) = true)
      (free : ∀ r, ¬ Restrains c t (.channel channel) user r)
      (restrains : Restrains c t (.space ch.space) user r) :
      Denied c t channel user (.violation (.restrained r.scope r.kind r.expiresAt))

theorem activeAt_iff {r : Restraint} {now : Instant} :
    r.ActiveAt now ↔ ∀ e, r.expiresAt = some e → now < e := by
  unfold Restraint.ActiveAt
  cases r.expiresAt <;> simp

def blocking? (c : Context) (t : Tables) (scope : Scope) (user : Ident) : Option Restraint :=
  (t.restraint? scope user).filter fun r => c.policy.denies r.kind && decide (r.ActiveAt c.now)

theorem blocking?_eq_some_iff (keyed : t.Keyed) {scope : Scope} {r : Restraint} :
    blocking? c t scope user = some r ↔ Restrains c t scope user r := by
  simp only [blocking?, Option.filter_eq_some_iff, Bool.and_eq_true, decide_eq_true_eq, activeAt_iff]
  constructor
  · rintro ⟨found, denied, pending⟩
    have own := keyed.restraints _ _ found
    exact ⟨Table.mem_rows_iff.mpr ⟨_, found⟩, congrArg Prod.fst own, congrArg Prod.snd own, denied, pending⟩
  · rintro ⟨row, rfl, rfl, denied, pending⟩
    obtain ⟨k, found⟩ := Table.mem_rows_iff.mp row
    cases keyed.restraints _ _ found
    exact ⟨found, denied, pending⟩

theorem blocking?_eq_none_iff (keyed : t.Keyed) {scope : Scope} :
    blocking? c t scope user = none ↔ ∀ r, ¬ Restrains c t scope user r := by
  simp only [← blocking?_eq_some_iff keyed, Option.eq_none_iff_forall_ne_some, ne_eq]

theorem channel?_live_eq_some_iff {ch : Channel} :
    t.channel? .live channel = some ch ↔ LiveChannel t channel ch := by
  simp [Tables.channel?, LiveChannel, Option.filter_eq_some_iff]

theorem find?_toList_append {α : Type} (x y : Option α) (p : α → Bool) :
    (x.toList ++ y.toList).find? p = (x.filter p).or (y.filter p) := by
  rw [List.find?_append]
  cases x <;> cases y <;> simp [Option.filter]

def denial? (c : Context) (t : Tables) (channel user : Ident) : Option Failure :=
  match verdict? c t channel user with
  | none => some (.channelNotFound channel)
  | some verdict => verdict.map .violation

theorem denial?_of_live (keyed : t.Keyed) {ch : Channel} {s : Space} (live : LiveChannel t channel ch)
    (space : t.spaces.get? ch.space = some s) :
    denial? c t channel user =
      if s.deleted = true then some (.violation (.spaceUnavailable ch.space))
      else if t.channelMembers.contains (channel, user) = false then
        some (.violation (.notChannelMember channel))
      else ((blocking? c t (.channel channel) user).or (blocking? c t (.space ch.space) user)).map
        fun r => .violation (.restrained r.scope r.kind r.expiresAt) := by
  have joined : t.channelInSpace? .live channel = some ⟨ch, s⟩ := by
    rw [Tables.channelInSpace?, channel?_live_eq_some_iff.mpr live, Option.bind_some, space, Option.map_some]
  have channelId : ch.id = channel := keyed.channels _ _ live.1
  have spaceId : s.id = ch.space := keyed.spaces _ _ space
  simp only [denial?, verdict?, postingContext?, joined, Option.map_some, PostingContext.violation?,
    PostingContext.spaceIsLive, PostingContext.firstDenying?, Option.any_some, channelId, spaceId,
    find?_toList_append, blocking?, Tables.channelMember?, Table.contains, Bool.not_eq_true',
    Bool.not_eq_false', apply_ite (Option.map Failure.violation), Option.map_map]
  rfl

theorem denial?_of_gone (gone : ∀ ch, ¬ LiveChannel t channel ch) :
    denial? c t channel user = some (.channelNotFound channel) := by
  have missing : t.channel? .live channel = none := by
    apply Option.eq_none_iff_forall_ne_some.mpr
    exact fun ch found => gone ch (channel?_live_eq_some_iff.mp found)
  simp [denial?, verdict?, postingContext?, Tables.channelInSpace?, missing]

theorem liveSpace_iff {space : Ident} {s : Space} (found : t.spaces.get? space = some s) :
    LiveSpace t space ↔ s.deleted = false := by
  simp [LiveSpace, found]

theorem denial?_cases (keyed : t.Keyed) (linked : t.Linked) (c : Context) (channel user : Ident) :
    (denial? c t channel user = none ∧ MayPost c t channel user) ∨
      ∃ f, denial? c t channel user = some f ∧ Denied c t channel user f := by
  by_cases gone : ∀ ch, ¬ LiveChannel t channel ch
  · exact .inr ⟨_, denial?_of_gone gone, .noChannel gone⟩
  obtain ⟨ch, live⟩ := Classical.not_forall_not.mp gone
  obtain ⟨s, space⟩ := Table.contains_eq_true_iff.mp (linked.channelSpace _ _ live.1)
  have formula : denial? c t channel user = _ := denial?_of_live keyed live space
  cases deleted : s.deleted with
  | true =>
    rw [if_pos deleted] at formula
    exact .inr ⟨_, formula, .noSpace live (by simp [liveSpace_iff space, deleted])⟩
  | false =>
    have within : LiveSpace t ch.space := ⟨s, space, deleted⟩
    rw [if_neg (by simp [deleted])] at formula
    cases member : t.channelMembers.contains (channel, user) with
    | false =>
      rw [if_pos member] at formula
      exact .inr ⟨_, formula, .noMember live within member⟩
    | true =>
      rw [if_neg (by simp [member])] at formula
      cases first : blocking? c t (.channel channel) user with
      | some r =>
        rw [first] at formula
        exact .inr ⟨_, formula, .inChannel live within member ((blocking?_eq_some_iff keyed).mp first)⟩
      | none =>
        have free := (blocking?_eq_none_iff keyed).mp first
        cases second : blocking? c t (.space ch.space) user with
        | some r =>
          rw [first, second] at formula
          exact .inr ⟨_, formula,
            .inSpace live within member free ((blocking?_eq_some_iff keyed).mp second)⟩
        | none =>
          rw [first, second] at formula
          have outside := (blocking?_eq_none_iff keyed).mp second
          exact .inl ⟨formula, ch, live, within, member, fun r => ⟨free r, outside r⟩⟩

theorem denial?_eq_none_iff (keyed : t.Keyed) (linked : t.Linked) :
    denial? c t channel user = none ↔ MayPost c t channel user := by
  constructor
  · intro none
    rcases denial?_cases keyed linked c channel user with ⟨-, may⟩ | ⟨f, some, -⟩
    · exact may
    · rw [none] at some
      cases some
  · rintro ⟨ch, live, ⟨s, space, stays⟩, member, free⟩
    rw [denial?_of_live keyed live space, if_neg (by simp [stays]), if_neg (by simp [member]),
      (blocking?_eq_none_iff keyed).mpr fun r => (free r).1,
      (blocking?_eq_none_iff keyed).mpr fun r => (free r).2]
    rfl

theorem denial?_eq_some_iff (keyed : t.Keyed) (linked : t.Linked) {f : Failure} :
    denial? c t channel user = some f ↔ Denied c t channel user f := by
  constructor
  · intro some
    rcases denial?_cases keyed linked c channel user with ⟨none, -⟩ | ⟨g, same, denied⟩
    · rw [none] at some
      cases some
    · rw [same] at some
      cases some
      exact denied
  · intro denied
    cases denied with
    | noChannel gone => exact denial?_of_gone gone
    | noSpace live gone =>
      obtain ⟨s, space⟩ := Table.contains_eq_true_iff.mp (linked.channelSpace _ _ live.1)
      rw [denial?_of_live keyed live space, if_pos (by simpa [liveSpace_iff space] using gone)]
    | noMember live within outside =>
      obtain ⟨s, space, stays⟩ := within
      rw [denial?_of_live keyed live space, if_neg (by simp [stays]), if_pos outside]
    | inChannel live within member restrains =>
      obtain ⟨s, space, stays⟩ := within
      rw [denial?_of_live keyed live space, if_neg (by simp [stays]), if_neg (by simp [member]),
        (blocking?_eq_some_iff keyed).mpr restrains]
      rfl
    | inSpace live within member free restrains =>
      obtain ⟨s, space, stays⟩ := within
      rw [denial?_of_live keyed live space, if_neg (by simp [stays]), if_neg (by simp [member]),
        (blocking?_eq_none_iff keyed).mpr free, (blocking?_eq_some_iff keyed).mpr restrains]
      rfl

theorem verdict?_eq_some_none_iff : verdict? c t channel user = some none ↔ denial? c t channel user = none := by
  unfold denial?
  cases verdict? c t channel user <;> simp

theorem parents_of_mayPost (keyed : t.Keyed) (linked : t.Linked) (may : MayPost c t channel user) :
    t.channels.contains channel = true ∧ t.users.contains user = true := by
  obtain ⟨ch, live, -, member, -⟩ := may
  obtain ⟨row, stored⟩ := Table.contains_eq_true_iff.mp member
  have own : row.user = user := congrArg Prod.snd (keyed.channelMembers _ _ stored)
  exact ⟨Table.contains_of_get? live.1, own ▸ linked.channelMemberUser _ _ stored⟩

theorem insertMessage_of_mayPost (keyed : t.Keyed) (linked : t.Linked) (may : MayPost c t channel user)
    {m : Message} (place : m.channel = channel) (author : m.author = user)
    (fresh : t.messages.contains m.id = false) : ∃ u, t.insertMessage m = .ok u := by
  obtain ⟨there, known⟩ := parents_of_mayPost keyed linked may
  subst place author
  exact ⟨_, Tables.insertMessage_eq_ok_iff.mpr ⟨there, known, fresh, rfl⟩⟩

namespace Deployment

variable {d : Deployment}

theorem call_canPost (d : Deployment) (channel user : Ident) :
    d.call (.canPost channel user) =
      (.ok (.flag (decide (denial? d.context d.tables channel user = none))), d) := by
  simp only [call, work, Call.perform, canPost, Action.run_map, Action.run_bind, Action.run_openUnit,
    Action.run_see, verdict?_eq_some_none_iff]
  rfl

theorem call_postMessage (d : Deployment) (channel author : Ident) {r : PostMessage} (valid : r.problems = []) :
    (d.call (.postMessage channel author r)).1 =
      match denial? d.context d.tables channel author with
      | some f => .error (.failed f)
      | none =>
        let m : Message := ⟨(d.ids.next d.context.wall).1, channel, author, r.body, false,
          d.context.now, d.context.now⟩
        match d.tables.insertMessage m with
        | .error f => .error (.failed f)
        | .ok _ => .ok (.one .message m) := by
  simp only [call, work, Call.perform, postMessage, Action.run_map, Action.run_bind, Action.run_openUnit,
    Action.run_check, if_pos valid, Action.run_demand, denial?]
  cases verdict? d.context d.tables channel author with
  | none => rfl
  | some verdict =>
    cases verdict with
    | some v => rfl
    | none =>
      simp only [Action.run_permit, Action.run_freshIdent, Action.run_write, Option.map_none]
      generalize d.tables.insertMessage _ = stored
      cases stored <;> rfl

def under (d : Deployment) (policy : Policy) (clocks : Clocks) : Deployment :=
  { d with policy := policy, clocks := clocks }

section Posting

variable {r : PostMessage}

theorem postMessage_of_denial {f : Failure} (valid : r.problems = [])
    (denied : denial? d.context d.tables channel user = some f) :
    (d.call (.postMessage channel user r)).1 = .error (.failed f) := by
  rw [call_postMessage d channel user valid, denied]

/-- Nothing but the gate stops a post, as long as its identifier is new. -/
theorem postMessage_of_mayPost (keyed : d.tables.Keyed) (linked : d.tables.Linked) (valid : r.problems = [])
    (fresh : d.tables.messages.contains (d.ids.next d.context.wall).1 = false)
    (may : MayPost d.context d.tables channel user) :
    ∃ a, (d.call (.postMessage channel user r)).1 = .ok a := by
  rw [call_postMessage d channel user valid, (denial?_eq_none_iff keyed linked).mpr may]
  let m : Message :=
    ⟨(d.ids.next d.context.wall).1, channel, user, r.body, false, d.context.now, d.context.now⟩
  obtain ⟨u, stored⟩ := insertMessage_of_mayPost (m := m) keyed linked may rfl rfl fresh
  exact ⟨.one .message m, by simp only [m, stored]⟩

theorem postMessage_eq_ok_iff (keyed : d.tables.Keyed) (linked : d.tables.Linked) (valid : r.problems = [])
    (fresh : d.tables.messages.contains (d.ids.next d.context.wall).1 = false) :
    (∃ a, (d.call (.postMessage channel user r)).1 = .ok a) ↔
      denial? d.context d.tables channel user = none := by
  constructor
  · rintro ⟨a, through⟩
    apply Option.eq_none_iff_forall_ne_some.mpr
    intro f denied
    rw [postMessage_of_denial valid denied] at through
    cases through
  · intro none
    exact postMessage_of_mayPost keyed linked valid fresh ((denial?_eq_none_iff keyed linked).mp none)

theorem postMessage_eq_error_iff (keyed : d.tables.Keyed) (linked : d.tables.Linked) (valid : r.problems = [])
    (fresh : d.tables.messages.contains (d.ids.next d.context.wall).1 = false) {refusal : Refusal} :
    (d.call (.postMessage channel user r)).1 = .error refusal ↔
      ∃ f, refusal = .failed f ∧ denial? d.context d.tables channel user = some f := by
  constructor
  · intro turned
    cases denied : denial? d.context d.tables channel user with
    | none =>
      obtain ⟨a, through⟩ := (postMessage_eq_ok_iff keyed linked valid fresh).mpr denied
      rw [through] at turned
      cases turned
    | some f =>
      rw [postMessage_of_denial valid denied] at turned
      cases turned
      exact ⟨f, rfl, rfl⟩
  · rintro ⟨f, rfl, denied⟩
    exact postMessage_of_denial valid denied

theorem canPost_eq_ok_iff {answer : Bool} :
    (d.call (.canPost channel user)).1 = .ok (.flag answer) ↔
      (answer = true ↔ denial? d.context d.tables channel user = none) := by
  rw [call_canPost, Except.ok.injEq, Answer.flag.injEq]
  cases answer <;> simp

end Posting

/-- In every state that a service can reach, under whatever policy and at whatever time, a post goes
through exactly if the user is told so when asking, which is exactly if the rows allow it; and what a post
is refused for is exactly the first reason that applies. -/
theorem postMessage_iff_canPost (h : d.Reachable) (policy : Policy) (clocks : Clocks)
    (channel user : Ident) (r : PostMessage) (length : 1 ≤ r.body.length ∧ r.body.length ≤ 4000)
    (fresh : d.tables.messages.contains (d.ids.next clocks.wall).1 = false) :
    let e := d.under policy clocks
    let posted := (e.call (.postMessage channel user r)).1
    let told := (e.call (.canPost channel user)).1
    ((∃ a, posted = .ok a) ↔ told = .ok (.flag true)) ∧
      (told = .ok (.flag true) ↔ MayPost e.context e.tables channel user) ∧
      (told = .ok (.flag false) ↔ ¬ MayPost e.context e.tables channel user) ∧
      (posted = .error (.failed (.channelNotFound channel)) ↔
        ∀ ch, e.tables.channels.get? channel = some ch → ch.deleted = true) ∧
      ∀ refusal, posted = .error refusal ↔
        ∃ f, refusal = .failed f ∧ Denied e.context e.tables channel user f := by
  intro e posted told
  have keyed : e.tables.Keyed := h.served.built.keyed
  have linked : e.tables.Linked := h.served.built.linked
  have valid : r.problems = [] := Request.problemUnless_eq_nil_iff.mpr length
  have gate : denial? e.context e.tables channel user = none ↔ MayPost e.context e.tables channel user :=
    denial?_eq_none_iff keyed linked
  have refused (refusal) : posted = .error refusal ↔
      ∃ f, refusal = .failed f ∧ Denied e.context e.tables channel user f := by
    rw [postMessage_eq_error_iff keyed linked valid fresh]
    exact exists_congr fun f => and_congr_right fun _ => denial?_eq_some_iff keyed linked
  refine ⟨?_, ?_, ?_, ?_, refused⟩
  · rw [postMessage_eq_ok_iff keyed linked valid fresh, canPost_eq_ok_iff]
    simp
  · rw [canPost_eq_ok_iff, ← gate]
    simp
  · rw [canPost_eq_ok_iff, ← gate]
    simp
  · rw [refused]
    constructor
    · rintro ⟨_, ⟨⟩, denied⟩ ch found
      cases denied with
      | noChannel gone =>
        cases deleted : ch.deleted with
        | true => rfl
        | false => exact absurd ⟨found, deleted⟩ (gone ch)
    · intro gone
      refine ⟨_, rfl, .noChannel ?_⟩
      rintro ch ⟨found, live⟩
      rw [gone ch found] at live
      cases live

/-- User 1 is muted in space 2 until one second after the beginning of 1970: channel 3 is closed to the
user right before that and open again from then on. -/
theorem postMessage_iff_canPost_muted :
    let d := blank.after [.call (.createUser ⟨"ann", none⟩), .call (.createSpace ⟨1⟩ ⟨"home", none⟩),
      .call (.createChannel ⟨2⟩ ⟨"news"⟩), .call (.addChannelMember ⟨3⟩ ⟨1⟩),
      .call (.restrain (.space ⟨2⟩) ⟨1⟩ ⟨1⟩ ⟨.mute, some (.ofMillis 1000), none⟩)]
    let post := Call.postMessage ⟨3⟩ ⟨1⟩ ⟨"hello"⟩
    (∃ a, ((d.under .default ⟨0, .ofMillis 1000, false⟩).call post).1 = .ok a) ∧
      ((d.under .default ⟨0, .ofMillis 999, false⟩).call post).1 =
        .error (.failed (.violation (.restrained (.space ⟨2⟩) .mute (some (.ofMillis 1000))))) := by
  intro d post
  have reachable : d.Reachable := reachable_blank_after _
  have agree (clocks : Clocks) (wall : clocks.wall = 0) :=
    postMessage_iff_canPost reachable .default clocks ⟨3⟩ ⟨1⟩ ⟨"hello"⟩ (by decide) (by rw [wall]; decide)
  constructor
  · exact (agree ⟨0, .ofMillis 1000, false⟩ rfl).1.mpr (canPost_eq_ok_iff.mpr (by decide))
  · apply ((agree ⟨0, .ofMillis 999, false⟩ rfl).2.2.2.2 _).mpr
    refine ⟨_, rfl, (denial?_eq_some_iff reachable.served.built.keyed reachable.served.built.linked).mp ?_⟩
    decide

end Deployment

end ChatSpaces.Service
