import ChatSpaces.Proofs.Service.Atomic
import ChatSpaces.Proofs.Service.RestraintHistory
import ChatSpaces.Proofs.Tables.Compaction
import Mathlib.Data.List.Forall2

/-!
# Purging is not observed

A deployment and the same deployment after a purge are run side by side. Call by call they take the same
way: whatever a call looks at, restraints that are over count for nothing, and whatever it changes, it
changes in both. All that tells them apart are the answers that count or report dropped restraints.
-/

namespace ChatSpaces.Service

open Time (Instant)
open Tables (Compacts)

variable {T : Instant}

namespace Action

variable {α β : Type}

def Steady (T : Instant) (f : Tables → α × Tables) : Prop :=
  ∀ t u, Compacts T t u → (f u).1 = (f t).1 ∧ Compacts T (f t).2 (f u).2

def Neutral (T : Instant) : Action α → Prop
  | .done _ => True
  | .refuse _ => True
  | .enter rest => rest.Neutral T
  | .touch f next => Steady T f ∧ ∀ b, (next b).Neutral T
  | .draw _ next => ∀ i, (next i).Neutral T
  | .commit rest => rest.Neutral T

inductive Beside (T : Instant) : Work → Work → Prop
  | compacted {committed tables ids committed' tables'} (kept : Compacts T committed committed')
      (copy : Compacts T tables tables') : Beside T ⟨committed, tables, ids⟩ ⟨committed', tables', ids⟩

/-- Two results with the same answer or refusal, which leave the same work but for compacted tables. -/
inductive Alike (T : Instant) :
    EStateM.Result Refusal Work α → EStateM.Result Refusal Work α → Prop
  | answered (a : α) {w w' : Work} (left : Beside T w w') : Alike T (.ok a w) (.ok a w')
  | refused (r : Refusal) {w w' : Work} (left : Beside T w w') : Alike T (.error r w) (.error r w')

theorem Neutral.run {a : Action α} (h : a.Neutral T) {w w' : Work} (beside : Beside T w w') :
    Alike T (a.run w) (a.run w') := by
  induction a generalizing w w' with
  | done a => exact .answered a beside
  | refuse r => exact .refused r beside
  | enter rest ih =>
    cases beside with
    | compacted kept copy => exact ih h (.compacted kept kept)
  | touch f next ih =>
    cases beside with
    | @compacted _ t _ _ u kept copy =>
      obtain ⟨same, left⟩ := h.1 t u copy
      rw [Action.run, Action.run]
      simp only [same]
      exact ih _ (h.2 _) (.compacted kept left)
  | draw wall next ih =>
    cases beside with
    | compacted kept copy => exact ih _ (h _) (.compacted kept copy)
  | commit rest ih =>
    cases beside with
    | compacted kept copy => exact ih h (.compacted copy copy)

theorem neutral_bind {a : Action α} {k : α → Action β} (first : a.Neutral T)
    (second : ∀ x, (k x).Neutral T) : (a >>= k).Neutral T := by
  change (a.bind k).Neutral T
  induction a with
  | done a => exact second a
  | refuse r => trivial
  | enter rest ih => exact ih first
  | touch f next ih => exact ⟨first.1, fun b => ih b (first.2 b)⟩
  | draw wall next ih => exact fun i => ih i (first i)
  | commit rest ih => exact ih first

theorem neutral_map {f : α → β} {a : Action α} (h : a.Neutral T) : (f <$> a).Neutral T := by
  rw [← bind_pure_comp]
  exact neutral_bind h fun _ => trivial

theorem neutral_openUnit : openUnit.Neutral T := trivial

theorem neutral_answer {x : α} : (commitUnit >>= fun _ => pure x).Neutral T := trivial

theorem neutral_freshIdent {c : Context} : (freshIdent c).Neutral T := fun _ => trivial

theorem neutral_see {look : Tables → α} (same : ∀ t u, Compacts T t u → look u = look t) :
    (see look).Neutral T :=
  ⟨fun t u h => ⟨same t u h, h⟩, fun _ => trivial⟩

theorem neutral_blind {look : Tables → α} (blind : ∀ t kept, look { t with restraints := kept } = look t) :
    (see look).Neutral T :=
  neutral_see fun _ _ h => h.look_eq blind

theorem neutral_demand {look : Tables → Option α} {otherwise : Failure}
    (seen : (see look).Neutral T) : (demand look otherwise).Neutral T := by
  refine neutral_bind seen fun found => ?_
  cases found with
  | none => trivial
  | some row => trivial

theorem neutral_write (o : Tables.Operation) (neutral : o.Neutral T)
    {insertion : Tables → Except Failure Tables} (inserts : ∀ t, o.apply t = Tables.inserted (insertion t)) :
    (write insertion).Neutral T := by
  refine ⟨fun t u h => ?_, fun failure => ?_⟩
  · have parallel := neutral t u h
    rw [inserts, inserts] at parallel
    dsimp only
    generalize insertion t = first at parallel ⊢
    generalize insertion u = second at parallel ⊢
    cases first with
    | error f =>
      cases second with
      | error g =>
        cases parallel
        exact ⟨rfl, h⟩
      | ok w => cases parallel
    | ok v =>
      cases second with
      | error g => cases parallel
      | ok w =>
        cases parallel with
        | ok _ left => exact ⟨rfl, left⟩
  · cases failure with
    | none => trivial
    | some f => trivial

theorem neutral_change (o : Tables.Operation) (neutral : o.Neutral T) {edit : Tables → Option Tables}
    (flags : ∀ t, o.apply t = .ok (Tables.flagged t (edit t))) : (change edit).Neutral T := by
  refine ⟨fun t u h => ?_, fun _ => trivial⟩
  have parallel := neutral t u h
  rw [flags, flags] at parallel
  dsimp only
  generalize edit t = first at parallel ⊢
  generalize edit u = second at parallel ⊢
  cases first with
  | none =>
    cases second with
    | none => exact ⟨rfl, h⟩
    | some w => cases parallel
  | some v =>
    cases second with
    | none => cases parallel
    | some w =>
      cases parallel with
      | ok _ left => exact ⟨rfl, left⟩

theorem neutral_changeOr (o : Tables.Operation) (neutral : o.Neutral T) {edit : Tables → Option Tables}
    (flags : ∀ t, o.apply t = .ok (Tables.flagged t (edit t))) {otherwise : Failure} :
    (changeOr edit otherwise).Neutral T := by
  refine neutral_bind (neutral_change o neutral flags) fun changed => ?_
  cases changed with
  | false => trivial
  | true => trivial

theorem neutral_revise (o : Tables.Operation) (neutral : o.Neutral T)
    {edit : Tables → Option (SpaceMember × Tables)}
    (answers : ∀ t, o.apply t = match edit t with
      | none => .ok (.entity none, t)
      | some (m, u) => .ok (.one .spaceMember m, u)) : (revise edit).Neutral T := by
  refine ⟨fun t u h => ?_, fun _ => trivial⟩
  have parallel := neutral t u h
  rw [answers, answers] at parallel
  dsimp only
  generalize edit t = first at parallel ⊢
  generalize edit u = second at parallel ⊢
  rcases first with _ | ⟨m, v⟩
  · rcases second with _ | ⟨n, w⟩
    · exact ⟨rfl, h⟩
    · cases parallel
  · rcases second with _ | ⟨n, w⟩
    · cases parallel
    · cases parallel with
      | ok _ left => exact ⟨rfl, left⟩

theorem neutral_tally (o : Tables.Operation) (neutral : o.Neutral T) {edit : Tables → Nat × Tables}
    (counts : ∀ t, o.apply t = .ok (Tables.counted (edit t))) : (tally edit).Neutral T := by
  refine ⟨fun t u h => ?_, fun _ => trivial⟩
  have parallel := neutral t u h
  rw [counts, counts] at parallel
  generalize edit t = first at parallel ⊢
  generalize edit u = second at parallel ⊢
  obtain ⟨m, v⟩ := first
  obtain ⟨n, w⟩ := second
  cases parallel with
  | ok _ left => exact ⟨rfl, left⟩

theorem neutral_check {ps : List Request.Problem} : (check ps).Neutral T := by
  unfold check
  split
  · trivial
  · trivial

theorem neutral_permit {v : Option Violation} : (permit v).Neutral T := by
  cases v with
  | none => trivial
  | some v => trivial

end Action

/-- The time by which a call judges whether a restraint is over, if the answer depends on it. -/
def Call.judgesAt (now : Instant) : Call → Option Instant
  | canPost .. | postMessage .. | editMessage .. => some now
  | activeRestraint _ _ time | isRestrained _ _ time | restraintsInScope _ time => some time
  | _ => none

/-- The call tells how many restraints it has found, those that are over included. -/
def Call.reports : Call → Bool
  | revokeRestraint .. | purgeExpired => true
  | _ => false

section Services

open Service.Action
open Tables.Operation (neutral_of_apart neutral_putRestraint)

variable {c : Context}

theorem neutral_demandUser {id : Ident} : (demandUser id).Neutral T := neutral_demand (neutral_blind fun _ _ => rfl)

theorem neutral_demandSpace {id : Ident} : (demandSpace id).Neutral T := neutral_demand (neutral_blind fun _ _ => rfl)

theorem neutral_demandChannel {id : Ident} : (demandChannel id).Neutral T :=
  neutral_demand (neutral_blind fun _ _ => rfl)

theorem neutral_demandOpenChannel {id : Ident} : (demandOpenChannel id).Neutral T :=
  neutral_demand (neutral_blind fun _ _ => rfl)

theorem neutral_demandMessage {v : Visibility} {id : Ident} : (demandMessage v id).Neutral T :=
  neutral_demand (neutral_blind fun _ _ => rfl)

theorem neutral_demandScope {scope : Scope} : (demandScope scope).Neutral T := by
  cases scope with
  | space id => exact neutral_bind neutral_demandSpace fun _ => trivial
  | channel id => exact neutral_bind neutral_demandChannel fun _ => trivial

theorem neutral_requireModerator {space user : Ident} : (requireModerator space user).Neutral T := by
  refine neutral_bind (neutral_blind fun _ _ => rfl) fun moderator => ?_
  cases moderator with
  | false => trivial
  | true => trivial

theorem verdict?_of_compacts (le : T ≤ c.now) {t u : Tables} (h : Compacts T t u) (channel user : Ident) :
    verdict? c u channel user = verdict? c t channel user := by
  have same (scope : Scope) : blocking? c u scope user = blocking? c t scope user := by
    apply h.filter_restraint?
    intro r blocks
    rw [Bool.and_eq_true] at blocks
    exact (of_decide_eq_true blocks.2).of_le le
  have joined : u.channelInSpace? .live channel = t.channelInSpace? .live channel := by
    cases h
    rfl
  have member : u.channelMember? channel user = t.channelMember? channel user := by
    cases h
    rfl
  unfold blocking? at same
  simp only [verdict?, postingContext?, joined, member, Option.map_map]
  congr 1
  funext x
  simp only [Function.comp_apply, PostingContext.violation?, PostingContext.spaceIsLive,
    PostingContext.firstDenying?, find?_toList_append, same]

theorem neutral_gate (le : T ≤ c.now) {channel user : Ident} : (see (verdict? c · channel user)).Neutral T :=
  neutral_see fun _ _ h => verdict?_of_compacts le h channel user

theorem neutral_createUser {r : CreateUser} : (createUser c r).Neutral T :=
  neutral_bind neutral_check fun _ => neutral_bind neutral_freshIdent fun _ =>
    neutral_bind neutral_openUnit fun _ =>
      neutral_bind (neutral_write (.insertUser _) (neutral_of_apart rfl) fun _ => rfl) fun _ => neutral_answer

theorem neutral_createSpace {owner : Ident} {r : CreateSpace} : (createSpace c owner r).Neutral T :=
  neutral_bind neutral_check fun _ => neutral_bind neutral_freshIdent fun _ =>
    neutral_bind neutral_openUnit fun _ => neutral_bind neutral_demandUser fun _ =>
      neutral_bind (neutral_write (.insertSpace _) (neutral_of_apart rfl) fun _ => rfl) fun _ =>
        neutral_bind (neutral_write (.insertSpaceMember _) (neutral_of_apart rfl) fun _ => rfl) fun _ =>
          neutral_answer

theorem neutral_createChannel {space : Ident} {r : CreateChannel} : (createChannel c space r).Neutral T :=
  neutral_bind neutral_check fun _ => neutral_bind neutral_openUnit fun _ =>
    neutral_bind neutral_demandSpace fun _ => neutral_bind neutral_freshIdent fun _ =>
      neutral_bind (neutral_write (.insertChannel _) (neutral_of_apart rfl) fun _ => rfl) fun _ => neutral_answer

theorem neutral_renameSpace {actor space : Ident} {r : RenameSpace} : (renameSpace c actor space r).Neutral T :=
  neutral_bind neutral_check fun _ => neutral_bind neutral_openUnit fun _ =>
    neutral_bind neutral_demandSpace fun _ => neutral_bind neutral_requireModerator fun _ =>
      neutral_bind (neutral_changeOr (.updateSpace _) (neutral_of_apart rfl) fun _ => rfl) fun _ => neutral_answer

theorem neutral_renameChannel {actor channel : Ident} {r : RenameChannel} :
    (renameChannel c actor channel r).Neutral T :=
  neutral_bind neutral_check fun _ => neutral_bind neutral_openUnit fun _ =>
    neutral_bind neutral_demandOpenChannel fun _ => neutral_bind neutral_requireModerator fun _ =>
      neutral_bind (neutral_changeOr (.updateChannel _) (neutral_of_apart rfl) fun _ => rfl) fun _ => neutral_answer

theorem neutral_deleteContent {kind : ContentKind} {id : Ident} : (deleteContent c kind id).Neutral T := by
  have deletion : (changeOr (kind.delete? · id c.now) (kind.notFound id)).Neutral T := by
    cases kind with
    | space => exact neutral_changeOr (.deleteSpace id c.now) (neutral_of_apart rfl) fun _ => rfl
    | channel => exact neutral_changeOr (.deleteChannel id c.now) (neutral_of_apart rfl) fun _ => rfl
    | message => exact neutral_changeOr (.deleteMessage id c.now) (neutral_of_apart rfl) fun _ => rfl
  exact neutral_bind neutral_openUnit fun _ => neutral_bind deletion fun _ => neutral_answer

theorem neutral_postMessage (le : T ≤ c.now) {channel author : Ident} {r : PostMessage} :
    (postMessage c channel author r).Neutral T :=
  neutral_bind neutral_check fun _ => neutral_bind neutral_openUnit fun _ =>
    neutral_bind (neutral_demand (neutral_gate le)) fun _ => neutral_bind neutral_permit fun _ =>
      neutral_bind neutral_freshIdent fun _ =>
        neutral_bind (neutral_write (.insertMessage _) (neutral_of_apart rfl) fun _ => rfl) fun _ => neutral_answer

theorem neutral_editMessage (le : T ≤ c.now) {actor message : Ident} {r : EditMessage} :
    (editMessage c actor message r).Neutral T := by
  refine neutral_bind neutral_check fun _ => neutral_bind neutral_openUnit fun _ =>
    neutral_bind neutral_demandMessage fun m => ?_
  split
  · trivial
  · exact neutral_bind (neutral_demand (neutral_gate le)) fun _ => neutral_bind neutral_permit fun _ =>
      neutral_bind (neutral_changeOr (.updateMessage _) (neutral_of_apart rfl) fun _ => rfl) fun _ => neutral_answer

theorem neutral_attachMedia {message : Ident} {r : AttachMedia} : (attachMedia c message r).Neutral T :=
  neutral_bind neutral_check fun _ => neutral_bind neutral_openUnit fun _ =>
    neutral_bind neutral_demandMessage fun _ => neutral_bind neutral_freshIdent fun _ =>
      neutral_bind (neutral_write (.insertMedia _) (neutral_of_apart rfl) fun _ => rfl) fun _ => neutral_answer

theorem neutral_deleteMessageAs {actor message : Ident} : (deleteMessageAs c actor message).Neutral T := by
  have delete : (change (·.deleteMessage? message c.now)).Neutral T :=
    neutral_change (.deleteMessage message c.now) (neutral_of_apart rfl) fun _ => rfl
  refine neutral_bind neutral_openUnit fun _ => neutral_bind neutral_demandMessage fun m => ?_
  split
  · refine neutral_bind (neutral_demand (neutral_blind fun _ _ => rfl)) fun channel =>
      neutral_bind (neutral_blind fun _ _ => rfl) fun moderator => ?_
    split
    · trivial
    · exact neutral_bind delete fun _ => neutral_answer
  · exact neutral_bind delete fun _ => neutral_answer

theorem neutral_addSpaceMember {space user : Ident} {role : Role} :
    (addSpaceMember c space user role).Neutral T :=
  neutral_bind neutral_openUnit fun _ => neutral_bind neutral_demandSpace fun _ =>
    neutral_bind neutral_demandUser fun _ =>
      neutral_bind (neutral_write (.insertSpaceMember _) (neutral_of_apart rfl) fun _ => rfl) fun _ => neutral_answer

theorem neutral_addChannelMember {channel user : Ident} : (addChannelMember c channel user).Neutral T := by
  refine neutral_bind neutral_openUnit fun _ => neutral_bind neutral_demandChannel fun _ =>
    neutral_bind neutral_demandUser fun _ => neutral_bind (neutral_blind fun _ _ => rfl) fun member => ?_
  split
  · trivial
  · exact neutral_bind (neutral_write (.insertChannelMember _) (neutral_of_apart rfl) fun _ => rfl) fun _ =>
      neutral_answer

theorem neutral_endMembership {scope : Scope} {user : Ident} : (endMembership user scope).Neutral T := by
  cases scope with
  | space id =>
    exact neutral_bind (neutral_change (.removeSpaceMember id user) (neutral_of_apart rfl) fun _ => rfl) fun _ =>
      neutral_bind (neutral_tally (.removeChannelMembersIn id user) (neutral_of_apart rfl) fun _ => rfl) fun _ =>
        trivial
  | channel id => exact neutral_change (.removeChannelMember id user) (neutral_of_apart rfl) fun _ => rfl

theorem neutral_removeMember {scope : Scope} {user : Ident} : (removeMember scope user).Neutral T :=
  neutral_bind neutral_openUnit fun _ => neutral_bind neutral_endMembership fun _ => neutral_answer

theorem neutral_setSpaceRole {space user : Ident} {role : Role} : (setSpaceRole space user role).Neutral T := by
  refine neutral_bind neutral_openUnit fun _ => neutral_bind neutral_demandSpace fun _ =>
    neutral_bind (neutral_revise (.setRole space user role) (neutral_of_apart rfl) fun _ => rfl) fun revised => ?_
  cases revised with
  | none => trivial
  | some m => exact neutral_answer

theorem neutral_restrain {scope : Scope} {user issuedBy : Ident} {r : Restrain} :
    (restrain c scope user issuedBy r).Neutral T :=
  neutral_bind neutral_check fun _ => neutral_bind neutral_openUnit fun _ =>
    neutral_bind neutral_demandScope fun _ => neutral_bind neutral_demandUser fun _ =>
      neutral_bind (neutral_write (.putRestraint _) (neutral_putRestraint _) fun _ => rfl) fun _ => neutral_answer

theorem neutral_activeRestraint {time : Instant} (le : T ≤ time) {scope : Scope} {user : Ident} :
    (activeRestraint scope user time).Neutral T := by
  refine neutral_bind neutral_openUnit fun _ => neutral_see fun t u h => ?_
  apply h.filter_restraint?
  exact fun r active => (of_decide_eq_true active).of_le le

theorem neutral_restraintsInScope {time : Instant} (le : T ≤ time) {scope : Scope} :
    (restraintsInScope scope time).Neutral T := by
  refine neutral_bind neutral_openUnit fun _ => neutral_see fun t u h => ?_
  apply h.filter_restraintsIn
  exact fun r active => (of_decide_eq_true active).of_le le

/-- Every call but a revocation and a purge takes the same way on compacted tables. -/
theorem neutral_perform {call : Call} (silent : call.reports = false)
    (later : ∀ time ∈ call.judgesAt c.now, T ≤ time) : (call.perform c).Neutral T := by
  cases call with
  | createUser r => exact neutral_map neutral_createUser
  | getUser user => exact neutral_map (neutral_bind neutral_openUnit fun _ => neutral_demandUser)
  | createSpace owner r => exact neutral_map neutral_createSpace
  | createChannel space r => exact neutral_map neutral_createChannel
  | renameSpace actor space r => exact neutral_map neutral_renameSpace
  | renameChannel actor channel r => exact neutral_map neutral_renameChannel
  | deleteContent kind id => exact neutral_map neutral_deleteContent
  | postMessage channel author r => exact neutral_map (neutral_postMessage (later _ rfl))
  | editMessage actor message r => exact neutral_map (neutral_editMessage (later _ rfl))
  | attachMedia message r => exact neutral_map neutral_attachMedia
  | deleteMessageAs actor message => exact neutral_map neutral_deleteMessageAs
  | canPost channel user =>
    refine neutral_map (neutral_bind neutral_openUnit fun _ => neutral_see fun t u h => ?_)
    rw [verdict?_of_compacts (later _ rfl) h]
  | addSpaceMember space user role => exact neutral_map neutral_addSpaceMember
  | addChannelMember channel user => exact neutral_map neutral_addChannelMember
  | removeMember scope user => exact neutral_map neutral_removeMember
  | setSpaceRole space user role => exact neutral_map neutral_setSpaceRole
  | restrain scope user issuedBy r => exact neutral_map neutral_restrain
  | revokeRestraint | purgeExpired => cases silent
  | activeRestraint scope user time => exact neutral_map (neutral_activeRestraint (later _ rfl))
  | isRestrained scope user time =>
    exact neutral_map (neutral_bind (neutral_activeRestraint (later _ rfl)) fun _ => trivial)
  | restraintsInScope scope time => exact neutral_map (neutral_restraintsInScope (later _ rfl))
  | channelInSpace v channel =>
    exact neutral_map (neutral_bind neutral_openUnit fun _ => neutral_demand (neutral_blind fun _ _ => rfl))
  | message v id => exact neutral_map (neutral_bind neutral_openUnit fun _ => neutral_demandMessage)
  | spaceMembers id | channelsInSpace id =>
    exact neutral_map (neutral_bind neutral_openUnit fun _ => neutral_bind neutral_demandSpace fun _ =>
      neutral_blind fun _ _ => rfl)
  | channelMembers id =>
    exact neutral_map (neutral_bind neutral_openUnit fun _ => neutral_bind neutral_demandChannel fun _ =>
      neutral_blind fun _ _ => rfl)
  | mediaOfMessage v id =>
    exact neutral_map (neutral_bind neutral_openUnit fun _ => neutral_bind neutral_demandMessage fun _ =>
      neutral_blind fun _ _ => rfl)
  | spaceOverview space =>
    exact neutral_map (neutral_bind neutral_openUnit fun _ => neutral_bind neutral_demandSpace fun _ =>
      neutral_bind (neutral_blind fun _ _ => rfl) fun _ =>
        neutral_bind (neutral_blind fun _ _ => rfl) fun _ => trivial)
  | messagesInChannel channel page =>
    exact neutral_map (neutral_bind neutral_check fun _ => neutral_bind neutral_openUnit fun _ =>
      neutral_bind neutral_demandOpenChannel fun _ => neutral_blind fun _ _ => rfl)

end Services

namespace Deed

def NotBefore (T : Instant) : Deed → Prop
  | .call now c _ => ∀ time ∈ c.judgesAt now, T ≤ time
  | .teardown => True

/-- The same deed, but for what a revocation or a purge reports. -/
inductive Agrees : Deed → Deed → Prop
  | same (x : Deed) : Agrees x x
  | revoked {now scope user} (b b' : Bool) :
      Agrees (.call now (.revokeRestraint scope user) (.ok (.flag b)))
        (.call now (.revokeRestraint scope user) (.ok (.flag b')))
  | purged {now} (n n' : Nat) :
      Agrees (.call now .purgeExpired (.ok (.count n))) (.call now .purgeExpired (.ok (.count n')))

end Deed

namespace Deployment

inductive Compacted (T : Instant) (d : Deployment) : Deployment → Prop
  | dropped {u : Tables} (h : Compacts T d.tables u) : Compacted T d { d with tables := u }

variable {d d' : Deployment}

theorem Compacted.call (h : Compacted T d d') (c : Call) (later : ∀ time ∈ c.judgesAt d.now, T ≤ time) :
    (Deed.call d.now c (d.call c).1).Agrees (.call d'.now c (d'.call c).1) ∧
      Compacted T (d.call c).2 (d'.call c).2 := by
  cases h with
  | @dropped u h =>
    cases reports : c.reports with
    | true =>
      cases c with
      | revokeRestraint scope user =>
        rw [call_revokeRestraint, call_revokeRestraint]
        exact ⟨.revoked _ _, .dropped (h.removeRestraint? scope user)⟩
      | purgeExpired =>
        rw [call_purgeExpired, call_purgeExpired]
        exact ⟨.purged _ _, .dropped (h.removeExpired d.now)⟩
      | _ => cases reports
    | false =>
      have beside : Action.Beside T d.work ({ d with tables := u } : Deployment).work := .compacted h h
      have alike := (neutral_perform (c := d.context) reports later).run beside
      have context : ({ d with tables := u } : Deployment).context = d.context := rfl
      unfold Deployment.call
      rw [context]
      generalize (c.perform d.context).run d.work = first at alike ⊢
      generalize (c.perform d.context).run _ = second at alike ⊢
      cases alike with
      | answered a left =>
        cases left with
        | compacted kept copy => exact ⟨.same _, .dropped kept⟩
      | refused r left =>
        cases left with
        | compacted kept copy => exact ⟨.same _, .dropped kept⟩

theorem Compacted.handle (h : Compacted T d d') (e : Event) (later : ∀ x ∈ d.deed? e, x.NotBefore T) :
    List.Forall₂ Deed.Agrees (d.deed? e).toList (d'.deed? e).toList ∧
      Compacted T (d.handle e) (d'.handle e) := by
  cases e with
  | call c =>
    obtain ⟨agrees, left⟩ := h.call c (later _ rfl)
    exact ⟨.cons agrees .nil, left⟩
  | teardown =>
    cases h
    exact ⟨.cons (.same _) .nil, .dropped .refl⟩
  | draw | setClock | setWall =>
    cases h with
    | dropped h => exact ⟨.nil, .dropped h⟩
  | advance ms =>
    cases h with
    | dropped h =>
      simp only [Deployment.handle, advance]
      cases d.clocks.manual.addMillis? ms with
      | none => exact ⟨.nil, .dropped h⟩
      | some moved => exact ⟨.nil, .dropped h⟩

/-- Side by side, the two runs have agreeing histories. -/
theorem Compacted.after (h : Compacted T d d') {es : List Event} (later : ∀ x ∈ d.history es, x.NotBefore T) :
    List.Forall₂ Deed.Agrees (d.history es) (d'.history es) ∧ Compacted T (d.after es) (d'.after es) := by
  induction es generalizing d d' with
  | nil => exact ⟨.nil, h⟩
  | cons e es ih =>
    have now : ∀ x ∈ d.deed? e, x.NotBefore T := by
      intro x mem
      exact later x (List.mem_append_left _ (Option.mem_toList.mpr mem))
    have afterwards : ∀ x ∈ (d.handle e).history es, x.NotBefore T := by
      intro x mem
      exact later x (List.mem_append_right _ mem)
    obtain ⟨first, step⟩ := h.handle e now
    obtain ⟨rest, last⟩ := ih step afterwards
    exact ⟨List.rel_append first rest, last⟩

theorem over_of_not_activeAt {r : Restraint} (lapsed : ¬ r.ActiveAt T) : ∃ e, r.expiresAt = some e ∧ e ≤ T := by
  rw [activeAt_iff] at lapsed
  obtain ⟨e, rest⟩ := Classical.not_forall.mp lapsed
  obtain ⟨expiry, passed⟩ := Classical.not_imp.mp rest
  exact ⟨e, expiry, (Instant.not_lt _ _).mp passed⟩

/-- A purge drops the restraints that are over, counts them, and changes nothing else. However the deployment
goes on from there, as long as nothing is judged by a time before that of the purge, every call comes to what
it comes to without the purge, but for what revocations and purges report; and in the end nothing is missing
but restraints that were over at the purge. -/
theorem purge_unobserved (d : Deployment) (es : List Event) (later : ∀ x ∈ d.history es, x.NotBefore d.now) :
    let purged := (d.call .purgeExpired).2
    (∃ kept n,
      d.call .purgeExpired =
        (.ok (.count n), { d with tables := { d.tables with restraints := kept } }) ∧
      kept.size + n = d.tables.restraints.size ∧
      ∀ k r, kept.get? k = some r ↔
        d.tables.restraints.get? k = some r ∧ ∀ e, r.expiresAt = some e → d.now < e) ∧
    List.Forall₂ Deed.Agrees (d.history es) (purged.history es) ∧
    ∃ kept,
      purged.after es = { d.after es with tables := { (d.after es).tables with restraints := kept } } ∧
      ∀ k, kept.get? k = (d.after es).tables.restraints.get? k ∨
        kept.get? k = none ∧
          ∃ r e, (d.after es).tables.restraints.get? k = some r ∧ r.expiresAt = some e ∧ e ≤ d.now := by
  intro purged
  have start : Compacted d.now d purged := .dropped (Tables.compacts_removeExpired d.tables d.now)
  obtain ⟨agree, ended⟩ := start.after later
  refine ⟨⟨_, _, call_purgeExpired d, ?_, ?_⟩, agree, ?_⟩
  · apply Nat.add_sub_cancel'
    exact List.length_filter_le _ _
  · intro k r
    rw [Table.get?_filter, Option.filter_eq_some_iff, decide_eq_true_eq, activeAt_iff]
  · generalize purged.after es = last at ended ⊢
    cases ended with
    | dropped h =>
      cases h with
      | drop kept lapsed =>
        refine ⟨kept, rfl, fun k => ?_⟩
        rcases lapsed k with same | ⟨gone, r, found, past⟩
        · exact .inl same
        · obtain ⟨e, expiry, passed⟩ := over_of_not_activeAt past
          exact .inr ⟨gone, r, e, found, expiry, passed⟩

/-- User 1 is muted in space 2 until one second after the beginning of 1970, and the mute is purged then: after
that a revocation finds it only where it was not purged, and a post goes through in any case. -/
theorem purge_unobserved_mute :
    let d := blank.after [.call (.createUser ⟨"ann", none⟩), .call (.createSpace ⟨1⟩ ⟨"home", none⟩),
      .call (.createChannel ⟨2⟩ ⟨"news"⟩), .call (.addChannelMember ⟨3⟩ ⟨1⟩),
      .call (.restrain (.space ⟨2⟩) ⟨1⟩ ⟨1⟩ ⟨.mute, some (.ofMillis 1000), none⟩), .setClock (.ofMillis 1000)]
    let purged := (d.call .purgeExpired).2
    let post := Call.postMessage ⟨3⟩ ⟨1⟩ ⟨"hello"⟩
    let revoke := Call.revokeRestraint (.space ⟨2⟩) ⟨1⟩
    (d.call post).1.isOk = true ∧ (d.handle (.call post)).tables ≠ (purged.handle (.call post)).tables ∧
      List.Forall₂ Deed.Agrees (d.history [.call post, .call revoke]) (purged.history [.call post, .call revoke]) := by
  intro d purged post revoke
  refine ⟨by decide, by decide, ?_⟩
  apply (purge_unobserved d [.call post, .call revoke] ?_).2.1
  intro x mem
  rcases List.mem_cons.mp mem with rfl | mem
  · rintro time ⟨⟩
    decide
  · rcases List.mem_cons.mp mem with rfl | mem
    · rintro time ⟨⟩
    · cases mem

end Deployment

end ChatSpaces.Service
