import ChatSpaces.Proofs.Service.Posting
import ChatSpaces.Proofs.Service.Solo

/-!
# What restraints hold back

A restraint stays as it was issued until it is revoked or replaced, until it is purged after its end, or
until everything is torn down; no other call touches it. As long as it stays, its user neither posts nor
edits where it counts, whatever the clients do side by side.
-/

namespace ChatSpaces.Service

open Time (Instant)

def Call.restraintAfter (c : Context) (scope : Scope) (user : Ident) (before : Option Restraint) :
    Call → Option Restraint
  | .restrain scope' user' issuedBy r =>
    if (scope, user) = (scope', user') then
      some ⟨scope', user', r.kind, r.expiresAt, issuedBy, c.now, r.reason⟩
    else before
  | .revokeRestraint scope' user' => if (scope, user) = (scope', user') then none else before
  | .purgeExpired => before.filter fun r => decide (r.ActiveAt c.now)
  | _ => before

variable {c : Context} {t u : Tables} {call : Call} {l : List Ident} {a : Answer}

theorem restraints_of_delete? {kind : ContentKind} {id : Ident} {time : Instant}
    (ok : kind.delete? t id time = some u) : u.restraints = t.restraints := by
  cases kind with
  | space =>
    obtain ⟨s, -, rfl⟩ := Tables.deleteSpace?_eq_some_iff.mp ok
    split <;> rfl
  | channel =>
    obtain ⟨ch, -, rfl⟩ := Tables.deleteChannel?_eq_some_iff.mp ok
    split <;> rfl
  | message =>
    obtain ⟨m, -, rfl⟩ := Tables.deleteMessage?_eq_some_iff.mp ok
    split <;> rfl

/-- The restraint on one user in one scope depends on nothing but itself and the call. -/
theorem restraint?_of_effect (effect : Effect c t call l a u) (scope : Scope) (user : Ident) :
    u.restraint? scope user = call.restraintAfter c scope user (t.restraint? scope user) := by
  unfold Tables.restraint?
  cases effect with
  | @look call a reads =>
    cases call <;> first | rfl | cases reads
  | createUser _ _ ok =>
    obtain ⟨-, -, rfl⟩ := Tables.insertUser_eq_ok_iff.mp ok
    rfl
  | createSpace _ _ ok joined =>
    obtain ⟨-, -, rfl⟩ := Tables.insertSpace_eq_ok_iff.mp ok
    obtain ⟨-, -, -, rfl⟩ := Tables.insertSpaceMember_eq_ok_iff.mp joined
    rfl
  | createChannel _ _ _ ok =>
    obtain ⟨-, -, rfl⟩ := Tables.insertChannel_eq_ok_iff.mp ok
    rfl
  | renameSpace _ _ _ _ ok =>
    obtain ⟨stored, -, -, rfl⟩ := Tables.updateSpace?_eq_some_iff.mp ok
    rfl
  | renameChannel _ _ _ _ ok =>
    obtain ⟨stored, -, -, rfl⟩ := Tables.updateChannel?_eq_some_iff.mp ok
    rfl
  | deleteContent ok =>
    rw [restraints_of_delete? ok]
    rfl
  | postMessage _ _ _ ok =>
    obtain ⟨-, -, -, rfl⟩ := Tables.insertMessage_eq_ok_iff.mp ok
    rfl
  | editMessage _ _ _ _ _ ok =>
    obtain ⟨stored, -, -, rfl⟩ := Tables.updateMessage?_eq_some_iff.mp ok
    rfl
  | attachMedia _ _ _ ok =>
    obtain ⟨-, -, rfl⟩ := Tables.insertMedia_eq_ok_iff.mp ok
    rfl
  | deleteMessageAs _ _ ok =>
    rw [restraints_of_delete? (show ContentKind.delete? t .message _ _ = some _ from ok)]
    rfl
  | addSpaceMember _ _ ok =>
    obtain ⟨-, -, -, rfl⟩ := Tables.insertSpaceMember_eq_ok_iff.mp ok
    rfl
  | addChannelMember _ _ _ ok =>
    obtain ⟨-, -, -, rfl⟩ := Tables.insertChannelMember_eq_ok_iff.mp ok
    rfl
  | leaveSpace =>
    rw [Tables.getD_removeSpaceMember?]
    rfl
  | leaveChannel =>
    rw [Tables.getD_removeChannelMember?]
    rfl
  | setSpaceRole _ ok =>
    obtain ⟨stored, -, -, rfl⟩ := Tables.setRole?_eq_some_iff.mp ok
    rfl
  | @restrain scope' user' issuedBy r x _ _ _ made ok =>
    obtain ⟨-, rfl⟩ := Tables.putRestraint_eq_ok_iff.mp ok
    subst made
    rw [Table.get?_insert, Call.restraintAfter]
    by_cases same : (scope, user) = (scope', user')
    · rw [if_pos same, if_pos same]
    · rw [if_neg same, if_neg same]
  | @revokeRestraint scope' user' =>
    rw [Tables.getD_removeRestraint?, Table.get?_erase, Call.restraintAfter]
    by_cases same : (scope, user) = (scope', user')
    · rw [if_pos same, if_pos same]
    · rw [if_neg same, if_neg same]
  | purgeExpired =>
    rw [Tables.removeExpired, Table.get?_filter]
    rfl

namespace System

variable {ι : Type}

/-- The commit may lift a restraint on the user in the scope with this expiry. -/
inductive Lifts (scope : Scope) (user : Ident) (expiresAt : Option Instant) : Commit ι → Prop
  | revoke {i c l a} : Lifts scope user expiresAt (.call i c (.revokeRestraint scope user) l a)
  | replace {i c issuedBy r l a} :
      Lifts scope user expiresAt (.call i c (.restrain scope user issuedBy r) l a)
  | purge {i c l a e} (expiry : expiresAt = some e) (past : e ≤ c.now) :
      Lifts scope user expiresAt (.call i c .purgeExpired l a)
  | teardown {i} : Lifts scope user expiresAt (.teardown i)

end System

/-- The call puts a message of the user in the channel, a new one or an edited one. -/
inductive Writes (t : Tables) (user channel : Ident) : Call → Prop
  | post {r} : Writes t user channel (.postMessage channel user r)
  | edit {message m r} (stored : t.messages.get? message = some m) (place : m.channel = channel) :
      Writes t user channel (.editMessage user message r)

def Covers (t : Tables) (scope : Scope) (channel : Ident) : Prop :=
  scope = .channel channel ∨ ∃ ch, t.channels.get? channel = some ch ∧ scope = .space ch.space

theorem mayPost_of_writes (keyed : t.Keyed) (linked : t.Linked) (effect : Effect c t call l a u)
    {user channel : Ident} (writes : Writes t user channel call) : MayPost c t channel user := by
  apply (denial?_eq_none_iff keyed linked).mp
  apply verdict?_eq_some_none_iff.mp
  cases writes with
  | post =>
    cases effect with
    | postMessage _ allowed => exact allowed
    | look reads => cases reads
  | edit stored place =>
    cases effect with
    | editMessage _ live _ allowed =>
      have same := (Option.filter_eq_some_iff.mp live).1
      rw [stored] at same
      cases same
      exact place ▸ allowed
    | look reads => cases reads

/-- A restraint that covers the channel and that the policy denies is over when its user writes there. -/
theorem over_of_writes (keyed : t.Keyed) (linked : t.Linked) (effect : Effect c t call l a u)
    {scope : Scope} {user channel : Ident} (writes : Writes t user channel call)
    (covers : Covers t scope channel) {x : Restraint} (found : t.restraint? scope user = some x)
    (denied : c.policy.denies x.kind = true) : ∃ e, x.expiresAt = some e ∧ e ≤ c.now := by
  obtain ⟨ch, live, -, -, free⟩ := mayPost_of_writes keyed linked effect writes
  have unrestrained : ¬ Restrains c t scope user x := by
    rcases covers with rfl | ⟨ch', found', rfl⟩
    · exact (free x).1
    · rw [live.1] at found'
      cases found'
      exact (free x).2
  have own := keyed.restraints _ _ found
  by_contra pending
  apply unrestrained
  refine ⟨Table.mem_rows_iff.mpr ⟨_, found⟩, congrArg Prod.fst own, congrArg Prod.snd own, denied, ?_⟩
  intro e expiry
  by_contra passed
  exact pending ⟨e, expiry, (Instant.not_lt _ _).mp passed⟩

namespace System

variable {ι : Type}

theorem restraintAfter_of_not_lifts {i : ι} {scope : Scope} {user : Ident} {x : Restraint}
    (unlifted : ¬ Lifts scope user x.expiresAt (.call i c call l a)) :
    call.restraintAfter c scope user (some x) = some x := by
  cases call with
  | restrain scope' user' issuedBy r =>
    rw [Call.restraintAfter, if_neg]
    rintro ⟨⟩
    exact unlifted .replace
  | revokeRestraint scope' user' =>
    rw [Call.restraintAfter, if_neg]
    rintro ⟨⟩
    exact unlifted .revoke
  | purgeExpired =>
    have active : x.ActiveAt c.now := by
      rw [activeAt_iff]
      intro e expiry
      by_contra passed
      exact unlifted (.purge expiry ((Instant.not_lt _ _).mp passed))
    simp [Call.restraintAfter, active]
  | _ => rfl

variable [DecidableEq ι] {s v : System ι}

theorem restraint?_of_move (sound : s.Sound) {o : Option (Commit ι)} (move : Move s o v) {scope : Scope}
    {user : Ident} {x : Restraint} (unlifted : ∀ y ∈ o, ¬ Lifts scope user x.expiresAt y)
    (found : s.store.committed.restraint? scope user = some x) :
    v.store.committed.restraint? scope user = some x := by
  rcases o with _ | ⟨i, c, call, l, a⟩ | i
  · rw [committed_of_quiet sound move]
    exact found
  · rw [restraint?_of_effect (effect_of_commit sound move), found]
    exact restraintAfter_of_not_lifts (unlifted _ rfl)
  · exact absurd .teardown (unlifted _ rfl)

/-- A restraint stays through any run in which no commit lifts it. -/
theorem restraint?_of_trace (sound : s.Sound) {cs : List (Commit ι)} (trace : Trace s cs v) {scope : Scope}
    {user : Ident} {x : Restraint} (unlifted : ∀ y ∈ cs, ¬ Lifts scope user x.expiresAt y)
    (found : s.store.committed.restraint? scope user = some x) :
    v.store.committed.restraint? scope user = some x := by
  induction trace with
  | refl => exact found
  | move before move ih =>
    refine restraint?_of_move (sound.trace before) move ?_ (ih ?_)
    · exact fun y mem => unlifted y (List.mem_append_right _ (Option.mem_toList.mpr mem))
    · exact fun y mem => unlifted y (List.mem_append_left _ mem)

/-- Once a restraint has been committed, and until a commit lifts it, no post and no edit of its user in a
channel that it covers is committed before it is over, if the policy of that post or edit denies its kind.
The channel may have come after the restraint, and other clients act in between as they like. -/
theorem no_writes_past_restraint {s₀ s₁ s₂ s₃ : System ι} (start : s₀.Reachable) {i j : ι}
    {c d : Context} {scope : Scope} {user issuedBy channel : Ident} {r : Restrain} {l m : List Ident}
    {a b : Answer} {cs : List (Commit ι)} {call : Call}
    (restrained : Move s₀ (some (.call i c (.restrain scope user issuedBy r) l a)) s₁)
    (between : Trace s₁ cs s₂) (unlifted : ∀ y ∈ cs, ¬ Lifts scope user r.expiresAt y)
    (written : Move s₂ (some (.call j d call m b)) s₃)
    (writes : Writes s₂.store.committed user channel call)
    (covers : Covers s₂.store.committed scope channel) (denied : d.policy.denies r.kind = true) :
    ∃ e, r.expiresAt = some e ∧ e ≤ d.now := by
  have sound₁ : s₁.Sound := start.sound.move restrained
  have sound₂ : s₂.Sound := sound₁.trace between
  have built : s₂.store.committed.Built := (sound₁.served_trace (start.sound.served_move start.served restrained)
    between).built
  have issued : s₁.store.committed.restraint? scope user =
      some ⟨scope, user, r.kind, r.expiresAt, issuedBy, c.now, r.reason⟩ := by
    rw [restraint?_of_effect (effect_of_commit start.sound restrained), Call.restraintAfter, if_pos rfl]
  have stays := restraint?_of_trace sound₁ between unlifted issued
  exact over_of_writes built.keyed built.linked (effect_of_commit sound₂ written) writes covers stays denied

/-- User 1 is muted in space 2 until one second after the beginning of 1970 while the post of user 1 is
under way, leaves the space, and comes back: the post goes through, for its clock shows that second. -/
theorem no_writes_past_restraint_expired :
    let mute : Restrain := ⟨.mute, some (.ofMillis 1000), none⟩
    ∃ (s₀ s₁ s₂ s₃ : System Nat) (c d : Context) (l m : List Ident) (a b : Answer) (cs : List (Commit Nat)),
      s₀.Reachable ∧ Move s₀ (some (.call 0 c (.restrain (.space ⟨2⟩) ⟨1⟩ ⟨1⟩ mute) l a)) s₁ ∧
        Trace s₁ cs s₂ ∧ cs.length = 3 ∧
        Move s₂ (some (.call 1 d (.postMessage ⟨3⟩ ⟨1⟩ ⟨"hello"⟩) m b)) s₃ ∧
        ∃ e, mute.expiresAt = some e ∧ e ≤ d.now := by
  intro mute
  obtain ⟨d₀, setup⟩ : ∃ d, d = Deployment.blank.after [.call (.createUser ⟨"ann", none⟩),
    .call (.createSpace ⟨1⟩ ⟨"home", none⟩), .call (.createChannel ⟨2⟩ ⟨"news"⟩),
    .call (.addChannelMember ⟨3⟩ ⟨1⟩)] := ⟨_, rfl⟩
  obtain ⟨d₁, muted⟩ : ∃ d, d = (d₀.call (.restrain (.space ⟨2⟩) ⟨1⟩ ⟨1⟩ mute)).2 := ⟨_, rfl⟩
  obtain ⟨d₂, left⟩ : ∃ d, d = (d₁.call (.removeMember (.space ⟨2⟩) ⟨1⟩)).2 := ⟨_, rfl⟩
  obtain ⟨d₃, joined⟩ : ∃ d, d = (d₂.call (.addSpaceMember ⟨2⟩ ⟨1⟩ .member)).2 := ⟨_, rfl⟩
  obtain ⟨d₄, back⟩ : ∃ d, d = ((d₃.call (.addChannelMember ⟨3⟩ ⟨1⟩)).2.setClock (.ofMillis 1000)) := ⟨_, rfl⟩
  let sessions : Nat → Option Session :=
    Function.update (fun _ => none) 1 (some (.start (.postMessage ⟨3⟩ ⟨1⟩ ⟨"hello"⟩) d₄.context))
  have reachable : (resting d₀ sessions).Reachable :=
    (reachable_resting 0 (setup ▸ Deployment.reachable_blank_after _)).trace (.move .refl (.submit rfl _ _))
  obtain ⟨l, a, first⟩ := trace_of_answered (i := 0) (d := d₀) sessions rfl
    (show Call.isRead (.restrain (.space ⟨2⟩) ⟨1⟩ ⟨1⟩ mute) = false from rfl) (by rw [setup]; decide)
  obtain ⟨l₁, a₁, leaves⟩ := trace_of_answered (i := 0) (d := d₁) sessions rfl
    (show Call.isRead (.removeMember (.space ⟨2⟩) ⟨1⟩) = false from rfl) (by rw [muted, setup]; decide)
  obtain ⟨l₂, a₂, joins⟩ := trace_of_answered (i := 0) (d := d₂) sessions rfl
    (show Call.isRead (.addSpaceMember ⟨2⟩ ⟨1⟩ .member) = false from rfl) (by rw [left, muted, setup]; decide)
  obtain ⟨l₃, a₃, enters⟩ := trace_of_answered (i := 0) (d := d₃) sessions rfl
    (show Call.isRead (.addChannelMember ⟨3⟩ ⟨1⟩) = false from rfl)
    (by rw [joined, left, muted, setup]; decide)
  rw [← muted] at first
  rw [← left] at leaves
  rw [← joined] at joins
  obtain ⟨s₀, s₁, before, restrained, after⟩ := first.split (show _ = [] ++ _ :: [] from rfl)
  have between := ((after.trans leaves).trans joins).trans enters
  have there : resting (d₃.call (.addChannelMember ⟨3⟩ ⟨1⟩)).2 sessions = resting d₄ sessions := by
    rw [back]
    rfl
  rw [there] at between
  have waiting : sessions 1 = some (.start (.postMessage ⟨3⟩ ⟨1⟩ ⟨"hello"⟩) d₄.context) := rfl
  obtain ⟨m, posts⟩ := trace_of_waiting waiting
  obtain ⟨b, once⟩ := commit?_of_isOk 1 (d := d₄)
    (show Call.isRead (.postMessage ⟨3⟩ ⟨1⟩ ⟨"hello"⟩) = false from rfl)
    (by rw [back, joined, left, muted, setup]; decide) m
  rw [once] at posts
  obtain ⟨s₂, s₃, rest, written, -⟩ := posts.split (show _ = [] ++ _ :: [] from rfl)
  have start : s₀.Reachable := reachable.trace before
  have resumed : (resting d₄ sessions).Sound := ((start.sound.move restrained).trace between)
  have same : s₂.store.committed = d₄.tables := committed_of_quiet_trace resumed rest rfl
  have covers : Covers s₂.store.committed (.space ⟨2⟩) ⟨3⟩ := by
    refine .inr ⟨⟨⟨3⟩, ⟨2⟩, "news", false, .ofMillis 0, .ofMillis 0⟩, ?_, rfl⟩
    rw [same, back, joined, left, muted, setup]
    decide
  have denied : d₄.context.policy.denies .mute = true := by
    rw [back, joined, left, muted, setup]
    decide
  refine ⟨s₀, s₁, s₂, s₃, _, _, l, m, a, b, _, start, restrained, between.trans rest, rfl, written, ?_⟩
  refine no_writes_past_restraint start restrained (between.trans rest) ?_ written .post covers denied
  intro y mem lifts
  simp only [List.nil_append, List.cons_append, List.append_nil, List.mem_cons, List.not_mem_nil, or_false] at mem
  rcases mem with rfl | rfl | rfl <;> cases lifts

end System

end ChatSpaces.Service
