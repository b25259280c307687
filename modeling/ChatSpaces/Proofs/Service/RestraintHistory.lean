import ChatSpaces.Proofs.Service.History
import ChatSpaces.Proofs.Service.Restraint

/-!
# Restraints and history

The restraints after a run are those that its history says still stand: issued, and since then neither
replaced nor revoked, nor purged when they were over, nor torn down. The three ways of asking for what is
in force agree with the history and with each other.
-/

namespace ChatSpaces.Service

open Time (Instant)

namespace Deed

inductive Issues (scope : Scope) (user : Ident) (r : Restraint) : Deed → Prop
  | restrain {now issuedBy request} :
      Issues scope user r (.call now (.restrain scope user issuedBy request) (.ok (.one .restraint r)))

/-- A restraint on the user in the scope with this expiry does not outlast the deed. -/
inductive Lifts (scope : Scope) (user : Ident) (expiresAt : Option Instant) : Deed → Prop
  | replace {now issuedBy request a} :
      Lifts scope user expiresAt (.call now (.restrain scope user issuedBy request) (.ok a))
  | revoke {now result} : Lifts scope user expiresAt (.call now (.revokeRestraint scope user) result)
  | purge {now e result} (expiry : expiresAt = some e) (past : e ≤ now) :
      Lifts scope user expiresAt (.call now .purgeExpired result)
  | teardown : Lifts scope user expiresAt .teardown

end Deed

/-- The last restraint that was issued to the user in the scope is this one, and nothing has lifted it. -/
def Stands (scope : Scope) (user : Ident) (r : Restraint) (ds : List Deed) : Prop :=
  ∃ before issue after, ds = before ++ issue :: after ∧ issue.Issues scope user r ∧
    ∀ x ∈ after, ¬ x.Lifts scope user r.expiresAt

variable {scope : Scope} {user : Ident} {r : Restraint} {ds : List Deed} {x : Deed}

theorem not_stands_nil : ¬ Stands scope user r [] := not_latest_nil

theorem stands_snoc :
    Stands scope user r (ds ++ [x]) ↔
      x.Issues scope user r ∨ (Stands scope user r ds ∧ ¬ x.Lifts scope user r.expiresAt) :=
  latest_snoc

/-- The call may make a difference to whether the user is restrained in the scope at this time. What is
purged is over at the time of the purge, so only the past can tell. -/
inductive Call.Concerns (scope : Scope) (user : Ident) (now time : Instant) : Call → Prop
  | restrain {issuedBy request} : Concerns scope user now time (.restrain scope user issuedBy request)
  | revoke : Concerns scope user now time (.revokeRestraint scope user)
  | purge (past : time < now) : Concerns scope user now time .purgeExpired

namespace Deployment

variable {d : Deployment} {time : Instant}

theorem call_revokeRestraint (d : Deployment) (scope : Scope) (user : Ident) :
    d.call (.revokeRestraint scope user) =
      (.ok (.flag (d.tables.removeRestraint? scope user).isSome),
        { d with tables := (d.tables.removeRestraint? scope user).getD d.tables }) := by
  simp only [call, work, Call.perform, revokeRestraint, Action.run_map, Action.run_bind, Action.run_openUnit,
    Action.run_change]
  cases d.tables.removeRestraint? scope user <;> rfl

theorem call_purgeExpired (d : Deployment) :
    d.call .purgeExpired =
      (.ok (.count (d.tables.removeExpired d.now).1), { d with tables := (d.tables.removeExpired d.now).2 }) :=
  rfl

theorem call_activeRestraint (d : Deployment) (scope : Scope) (user : Ident) (time : Instant) :
    (d.call (.activeRestraint scope user time)).1 =
      .ok (.optional .restraint ((d.tables.restraint? scope user).filter fun r => r.ActiveAt time)) := rfl

theorem call_isRestrained (d : Deployment) (scope : Scope) (user : Ident) (time : Instant) :
    (d.call (.isRestrained scope user time)).1 =
      .ok (.flag ((d.tables.restraint? scope user).filter fun r => r.ActiveAt time).isSome) := rfl

theorem call_restraintsInScope (d : Deployment) (scope : Scope) (time : Instant) :
    (d.call (.restraintsInScope scope time)).1 =
      .ok (.many .restraint ((d.tables.restraintsIn scope).filter fun r => r.ActiveAt time)) := rfl

end Deployment

section Effect

variable {c : Context} {t u : Tables} {call : Call} {l : List Ident} {a : Answer}

theorem restraint?_of_issues (effect : Effect c t call l a u)
    (issues : (Deed.call c.now call (.ok a)).Issues scope user r) : u.restraint? scope user = some r := by
  rw [restraint?_of_effect effect]
  cases issues with
  | restrain =>
    cases effect with
    | look reads => cases reads
    | restrain _ _ made _ => rw [Call.restraintAfter, if_pos rfl, made]

theorem issues_or_stays (effect : Effect c t call l a u) (found : u.restraint? scope user = some r) :
    (Deed.call c.now call (.ok a)).Issues scope user r ∨
      (t.restraint? scope user = some r ∧ ¬ (Deed.call c.now call (.ok a)).Lifts scope user r.expiresAt) := by
  rw [restraint?_of_effect effect] at found
  cases call with
  | restrain scope' user' issuedBy request =>
    by_cases same : (scope, user) = (scope', user')
    · cases same
      cases effect with
      | look reads => cases reads
      | restrain _ _ made _ =>
        rw [Call.restraintAfter, if_pos rfl, ← made] at found
        cases found
        exact .inl .restrain
    · rw [Call.restraintAfter, if_neg same] at found
      refine .inr ⟨found, ?_⟩
      rintro ⟨⟩
      exact same rfl
  | revokeRestraint scope' user' =>
    by_cases same : (scope, user) = (scope', user')
    · rw [Call.restraintAfter, if_pos same] at found
      cases found
    · rw [Call.restraintAfter, if_neg same] at found
      refine .inr ⟨found, ?_⟩
      rintro ⟨⟩
      exact same rfl
  | purgeExpired =>
    obtain ⟨stored, active⟩ := Option.filter_eq_some_iff.mp found
    refine .inr ⟨stored, ?_⟩
    intro lifts
    cases lifts with
    | purge expiry past =>
      have pending := activeAt_iff.mp (of_decide_eq_true active) _ expiry
      exact (Instant.not_lt _ _).mpr past pending
  | _ => exact .inr ⟨found, by rintro ⟨⟩⟩

theorem restraint?_of_stays (effect : Effect c t call l a u) (found : t.restraint? scope user = some r)
    (unlifted : ¬ (Deed.call c.now call (.ok a)).Lifts scope user r.expiresAt) :
    u.restraint? scope user = some r := by
  rw [restraint?_of_effect effect, found]
  apply System.restraintAfter_of_not_lifts (i := ()) (l := l) (a := a)
  intro lifts
  apply unlifted
  cases lifts with
  | revoke => exact .revoke
  | replace => exact .replace
  | purge expiry past => exact .purge expiry past

end Effect

namespace Deployment

/-- A refused call lifts nothing: revoking and purging always answer. -/
theorem not_lifts_of_refused {d : Deployment} {c : Call} {refusal : Refusal}
    (refused : (d.call c).1 = .error refusal) (expiresAt : Option Instant) :
    ¬ (Deed.call d.now c (.error refusal)).Lifts scope user expiresAt := by
  intro lifts
  cases lifts with
  | revoke =>
    rw [call_revokeRestraint] at refused
    cases refused
  | purge =>
    rw [call_purgeExpired] at refused
    cases refused

theorem restraint?_of_call (d : Deployment) (c : Call) :
    (d.call c).2.tables.restraint? scope user = some r ↔
      (Deed.call d.now c (d.call c).1).Issues scope user r ∨
        (d.tables.restraint? scope user = some r ∧
          ¬ (Deed.call d.now c (d.call c).1).Lifts scope user r.expiresAt) := by
  cases answered : (d.call c).1 with
  | error refusal =>
    rw [tables_of_refused answered]
    constructor
    · exact fun found => .inr ⟨found, not_lifts_of_refused answered _⟩
    · intro h
      rcases h with issues | ⟨found, -⟩
      · cases issues
      · exact found
  | ok a =>
    obtain ⟨l, effect⟩ := effect_of_call answered
    constructor
    · exact issues_or_stays effect
    · intro h
      rcases h with issues | ⟨found, unlifted⟩
      · exact restraint?_of_issues effect issues
      · exact restraint?_of_stays effect found unlifted

def Recalls (scope : Scope) (user : Ident) (d : Deployment) (ds : List Deed) : Prop :=
  ∀ r, d.tables.restraint? scope user = some r ↔ Stands scope user r ds

theorem recalls_start (w : Wiring) (clocks : Clocks) : Recalls scope user (start w clocks) [] := by
  intro r
  constructor
  · intro found
    cases found
  · intro stands
    exact absurd stands not_stands_nil

theorem Recalls.handle (h : Recalls scope user d ds) (e : Event) :
    Recalls scope user (d.handle e) (ds ++ (d.deed? e).toList) := by
  intro r
  cases deed : d.deed? e with
  | none =>
    rw [tables_of_forgotten deed, Option.toList_none, List.append_nil]
    exact h r
  | some x =>
    rw [Option.toList_some, stands_snoc, ← h r]
    cases e with
    | call c =>
      cases deed
      exact restraint?_of_call d c
    | teardown =>
      cases deed
      constructor
      · intro found
        cases found
      · intro before
        rcases before with issues | ⟨-, stays⟩
        · cases issues
        · exact absurd .teardown stays
    | draw | advance | setClock | setWall => cases deed

theorem recalls_after (w : Wiring) (clocks : Clocks) (es : List Event) :
    Recalls scope user ((start w clocks).after es) ((start w clocks).history es) :=
  history_induction (fun _ _ e h => h.handle e) (recalls_start w clocks) es

theorem activeRestraint_of_unconcerned (d : Deployment) {c : Call}
    (apart : ¬ c.Concerns scope user d.now time) :
    ((d.call c).2.tables.restraint? scope user).filter (fun r => r.ActiveAt time) =
      (d.tables.restraint? scope user).filter (fun r => r.ActiveAt time) := by
  apply Option.ext
  intro r
  simp only [Option.filter_eq_some_iff, decide_eq_true_eq, activeAt_iff]
  refine and_congr_left fun pending => ?_
  have unissued : ¬ (Deed.call d.now c (d.call c).1).Issues scope user r := by
    generalize (d.call c).1 = result
    intro issues
    cases issues with
    | restrain => exact apart .restrain
  have unlifted : ¬ (Deed.call d.now c (d.call c).1).Lifts scope user r.expiresAt := by
    generalize (d.call c).1 = result
    intro lifts
    cases lifts with
    | replace => exact apart .restrain
    | revoke => exact apart .revoke
    | purge expiry past => exact apart (.purge (Instant.lt_of_lt_of_le (pending _ expiry) past))
  rw [restraint?_of_call]
  constructor
  · rintro (issues | ⟨found, -⟩)
    · exact absurd issues unissued
    · exact found
  · exact fun found => .inr ⟨found, unlifted⟩

theorem optional_eq_one_iff {found : Option Restraint} :
    Answer.optional .restraint found = .one .restraint r ↔ found = some r := by
  cases found <;> simp [Answer.optional, Answer.one]

/-- After every run the restraint that a user is told to be under in a scope is the one that stands in the
history of the run, if it has no expiry or its expiry is still to come; whether the user is restrained and
which restraints a scope lists agree with it, and only calls about the user in the scope and purges of what
is over make a difference to it. -/
theorem active_iff_stands (w : Wiring) (clocks : Clocks) (es : List Event) (scope : Scope) (time : Instant) :
    let d := (start w clocks).after es
    let active (user : Ident) := (d.call (.activeRestraint scope user time)).1
    (∀ user, ∃ found : Option Restraint, active user = .ok (.optional .restraint found) ∧
      (∀ r, found = some r ↔
        Stands scope user r ((start w clocks).history es) ∧ ∀ e, r.expiresAt = some e → time < e) ∧
      (d.call (.isRestrained scope user time)).1 = .ok (.flag found.isSome) ∧
      ∀ c, ¬ c.Concerns scope user d.now time →
        ((d.call c).2.call (.activeRestraint scope user time)).1 = active user) ∧
    ∃ listed : List Restraint, (d.call (.restraintsInScope scope time)).1 = .ok (.many .restraint listed) ∧
      (listed.Pairwise fun r s => r.user < s.user) ∧
      ∀ r, r ∈ listed ↔ active r.user = .ok (.one .restraint r) := by
  intro d active
  have keyed : d.tables.Keyed := (Reachable.served ⟨w, clocks, es, rfl⟩).built.keyed
  refine ⟨?_, ?_⟩
  · intro user
    refine ⟨_, call_activeRestraint d scope user time, ?_, call_isRestrained d scope user time, ?_⟩
    · intro r
      rw [Option.filter_eq_some_iff, recalls_after w clocks es r, decide_eq_true_eq, activeAt_iff]
    · intro c apart
      rw [call_activeRestraint, activeRestraint_of_unconcerned d apart]
      exact (call_activeRestraint d scope user time).symm
  · refine ⟨_, call_restraintsInScope d scope time, (keyed.restraintsIn_increasing scope).filter _, ?_⟩
    intro r
    rw [List.mem_filter, keyed.mem_restraintsIn_iff]
    simp only [active]
    rw [call_activeRestraint, Except.ok.injEq, optional_eq_one_iff, Option.filter_eq_some_iff]

/-- User 1 is banned from space 2, leaves it, and is muted there instead until one second after the beginning
of 1970: the mute stands, though a purge has come and gone, and the ban does not. -/
theorem active_iff_stands_muted :
    let es : List Event := [.call (.createUser ⟨"ann", none⟩), .call (.createSpace ⟨1⟩ ⟨"home", none⟩),
      .call (.restrain (.space ⟨2⟩) ⟨1⟩ ⟨1⟩ ⟨.ban, none, none⟩), .call (.removeMember (.space ⟨2⟩) ⟨1⟩),
      .call (.restrain (.space ⟨2⟩) ⟨1⟩ ⟨1⟩ ⟨.mute, some (.ofMillis 1000), none⟩), .call .purgeExpired]
    let issued (kind : Restraint.Kind) (expiresAt : Option Instant) : Restraint :=
      ⟨.space ⟨2⟩, ⟨1⟩, kind, expiresAt, ⟨1⟩, .ofMillis 0, none⟩
    Stands (.space ⟨2⟩) ⟨1⟩ (issued .mute (some (.ofMillis 1000))) (blank.history es) ∧
      ¬ Stands (.space ⟨2⟩) ⟨1⟩ (issued .ban none) (blank.history es) := by
  intro es issued
  obtain ⟨agree, -⟩ := active_iff_stands ⟨.default, .new 0⟩ ⟨0, .ofMillis 0, false⟩ es (.space ⟨2⟩) (.ofMillis 999)
  obtain ⟨found, told, stands, -⟩ := agree ⟨1⟩
  have muted : ((blank.after es).tables.restraint? (.space ⟨2⟩) ⟨1⟩).filter (fun r => r.ActiveAt (.ofMillis 999)) =
      some (issued .mute (some (.ofMillis 1000))) := by decide
  have same : found = some (issued .mute (some (.ofMillis 1000))) := by
    apply optional_eq_one_iff.mp
    rw [← Except.ok.injEq, ← told]
    change (Deployment.call (blank.after es) _).1 = _
    rw [call_activeRestraint, muted]
    rfl
  refine ⟨((stands _).mp same).1, ?_⟩
  intro banned
  have other := (stands _).mpr ⟨banned, by rintro e ⟨⟩⟩
  rw [same] at other
  cases other

end Deployment

end ChatSpaces.Service
