import ChatSpaces.Proofs.Service.Course
import ChatSpaces.Proofs.Service.Posting
import ChatSpaces.Proofs.Service.Turns

/-!
# Memberships and history

Who is a member of what, and in which role, can be read off the deeds since the last teardown. Every deed that
begins or ends a membership finds it absent or present, so nothing is counted twice, and of clients that add the
same user to the same space side by side one succeeds.
-/

namespace ChatSpaces.Service

variable {space user : Ident}

section Counting

variable {t u : Tables} {x : Deed} {ds : List Deed}

theorem turn_of_leads (leads : x.Leads t u) (lasts : x.isTeardown = false) :
    x.Turn space user (roleIn? t space user) (roleIn? u space user) := by
  cases leads with
  | answered effect => exact turn_of_effect effect
  | refused yields => exact .rest apart_of_refused
  | teardown => cases lasts

theorem exists_of_founds (founds : x.founds space user = true) :
    ∃ now r s, x = .call now (.createSpace user r) (.ok (.one .space s)) ∧ s.id = space := by
  unfold Deed.founds at founds
  split at founds
  · next now owner r s =>
    obtain ⟨rfl, rfl⟩ := Prod.mk.inj (of_decide_eq_true founds)
    exact ⟨now, r, s, rfl, rfl⟩
  · cases founds

theorem new_of_founds (leads : x.Leads t u) (founds : x.founds space user = true) :
    t.spaces.contains space = false ∧ u.spaces.contains space = true := by
  obtain ⟨now, r, s, rfl, rfl⟩ := exists_of_founds founds
  cases leads with
  | answered effect =>
    cases effect with
    | look reads => cases reads
    | createSpace _ _ ok joined =>
      obtain ⟨-, free, rfl⟩ := Tables.insertSpace_eq_ok_iff.mp ok
      obtain ⟨-, -, -, rfl⟩ := Tables.insertSpaceMember_eq_ok_iff.mp joined
      exact ⟨free, Table.contains_insert.mpr (.inl rfl)⟩

theorem Deed.Turn.balance {before after : Option Role} (turn : x.Turn space user before after) :
    (x.joins space user).toNat + (x.founds space user).toNat + before.isSome.toNat =
      (x.leaves space user).toNat + after.isSome.toNat := by
  cases turn with
  | found made => simp [Deed.joins, Deed.joinResult?, Deed.founds, Deed.leaves, Answer.one, made]
  | join => simp [Deed.joins, Deed.joinResult?, Deed.founds, Deed.leaves, Except.isOk, Except.toBool]
  | regrade => rfl
  | leave => simp [Deed.joins, Deed.joinResult?, Deed.founds, Deed.leaves]
  | rest apart =>
    rw [apart.joins, apart.founds, apart.leaves]
    rfl

/-- The memberships that have begun and those that have ended differ by the one that is there. -/
structure Balanced (space user : Ident) (t : Tables) (ds : List Deed) : Prop where
  count : ds.countP (·.joins space user) + (ds.any (·.founds space user)).toNat =
    ds.countP (·.leaves space user) + (roleIn? t space user).isSome.toNat
  made : ds.any (·.founds space user) = true → t.spaces.contains space = true

theorem Balanced.empty : Balanced space user ∅ [] := ⟨rfl, nofun⟩

theorem Balanced.snoc (h : Balanced space user t ds) (leads : x.Leads t u) (lasts : x.isTeardown = false) :
    Balanced space user u (ds ++ [x]) := by
  have any : (ds ++ [x]).any (·.founds space user) = (ds.any (·.founds space user) || x.founds space user) := by
    simp
  constructor
  · have count := h.count
    have turn : x.Turn space user (roleIn? t space user) (roleIn? u space user) := turn_of_leads leads lasts
    have balance := turn.balance
    have once : (ds.any (·.founds space user) || x.founds space user).toNat =
        (ds.any (·.founds space user)).toNat + (x.founds space user).toNat := by
      cases founds : x.founds space user with
      | false => simp
      | true =>
        have unmade : ds.any (·.founds space user) = false := by
          rw [← Bool.not_eq_true]
          intro before
          have there := h.made before
          rw [(new_of_founds leads founds).1] at there
          cases there
        rw [unmade]
        rfl
    have singleton (p : Deed → Bool) : List.countP p [x] = (p x).toNat := by
      rw [List.countP_singleton]
      cases p x <;> rfl
    rw [List.countP_append, List.countP_append, singleton, singleton, any, once]
    omega
  · intro made
    rw [any, Bool.or_eq_true] at made
    rcases made with before | founds
    · exact (leads.endures lasts).spaces.contains (h.made before)
    · exact (new_of_founds leads founds).2

/-- The role is that of the last deed that gave one, unless the membership has ended since. -/
def Ranked (space user : Ident) (t : Tables) (ds : List Deed) : Prop :=
  ∀ role, roleIn? t space user = some role ↔
    Latest (·.Grants space user role) (fun y => y.leaves space user = true ∨ ∃ r, y.Grants space user r) ds

theorem Deed.Turn.granted {before after : Option Role} (turn : x.Turn space user before after) (role : Role) :
    after = some role ↔ x.Grants space user role ∨
      (before = some role ∧ ¬ (x.leaves space user = true ∨ ∃ r, x.Grants space user r)) := by
  cases turn with
  | found made =>
    constructor
    · rintro ⟨⟩
      exact .inl (.found rfl made)
    · rintro (grants | ⟨⟨⟩, -⟩)
      cases grants with
      | found owner => rw [owner]
  | @join now given a =>
    constructor
    · rintro ⟨⟩
      exact .inl .join
    · rintro (grants | ⟨⟨⟩, -⟩)
      cases grants
      rfl
  | @regrade now given old a =>
    constructor
    · rintro ⟨⟩
      exact .inl .regrade
    · rintro (grants | ⟨-, stays⟩)
      · cases grants
        rfl
      · exact absurd (.inr ⟨given, .regrade⟩) stays
  | leave =>
    constructor
    · rintro ⟨⟩
    · rintro (grants | ⟨-, stays⟩)
      · cases grants
      · exact absurd (.inl (decide_eq_true rfl)) stays
  | rest apart =>
    constructor
    · intro same
      refine .inr ⟨same, ?_⟩
      rintro (leaves | ⟨r, grants⟩)
      · rw [apart.leaves] at leaves
        cases leaves
      · exact apart.grants r grants
    · rintro (grants | ⟨same, -⟩)
      · exact absurd grants (apart.grants role)
      · exact same

theorem Ranked.empty : Ranked space user ∅ [] := by
  intro role
  constructor
  · rintro ⟨⟩
  · exact fun latest => absurd latest not_latest_nil

theorem Ranked.snoc (h : Ranked space user t ds) (leads : x.Leads t u) (lasts : x.isTeardown = false) :
    Ranked space user u (ds ++ [x]) := by
  intro role
  rw [latest_snoc, ← h role]
  exact (turn_of_leads leads lasts).granted role

/-- A user is in a channel of the space if the last deed about it has been to enter. -/
def Seated (space user channel : Ident) (t : Tables) (ds : List Deed) : Prop :=
  (∀ ch, t.channels.get? channel = some ch → ch.space = space) →
    (t.channelMembers.contains (channel, user) = true ↔
      Latest (·.Enters user channel) (fun y => y.Enters user channel ∨ y.Quits space user channel) ds)

theorem Deed.Passage.entered {channel : Ident} {before after : Bool}
    (passage : x.Passage space user channel before after) :
    after = true ↔ x.Enters user channel ∨
      (before = true ∧ ¬ (x.Enters user channel ∨ x.Quits space user channel)) := by
  cases passage with
  | enter => exact ⟨fun _ => .inl .add, fun _ => rfl⟩
  | quit quits =>
    constructor
    · rintro ⟨⟩
    · rintro (enters | ⟨-, stays⟩)
      · cases enters
        cases quits
      · exact absurd (.inr quits) stays
  | rest enters quits =>
    constructor
    · exact fun there => .inr ⟨there, not_or.mpr ⟨enters, quits⟩⟩
    · rintro (begins | ⟨there, -⟩)
      · exact absurd begins enters
      · exact there

theorem passage_of_leads {channel : Ident} (built : t.Built) (leads : x.Leads t u)
    (lasts : x.isTeardown = false) (place : ∀ ch, t.channels.get? channel = some ch → ch.space = space) :
    x.Passage space user channel (t.channelMembers.contains (channel, user))
      (u.channelMembers.contains (channel, user)) := by
  cases leads with
  | answered effect => exact passage_of_effect built effect place
  | refused yields => exact .rest (by rintro ⟨⟩) (by rintro ⟨⟩)
  | teardown => cases lasts

theorem Seated.empty {channel : Ident} : Seated space user channel ∅ [] := by
  intro _
  constructor
  · rintro ⟨⟩
  · exact fun latest => absurd latest not_latest_nil

theorem Seated.snoc {channel : Ident} (built : t.Built) (h : Seated space user channel t ds) (leads : x.Leads t u)
    (lasts : x.isTeardown = false) : Seated space user channel u (ds ++ [x]) := by
  intro after
  have before : ∀ ch, t.channels.get? channel = some ch → ch.space = space := by
    intro ch found
    obtain ⟨ch', found', same⟩ := (leads.endures lasts).channels _ _ found
    exact same.symm.trans (after ch' found')
  rw [latest_snoc, ← h before]
  exact (passage_of_leads built leads lasts before).entered

end Counting

section Joins

variable {c : Context} {t u : Tables} {x : Deed} {ds : List Deed} {role : Role} {l : List Ident} {r : Refusal}

theorem conflict_of_join (refused : (addSpaceMember c space user role).Yields l t (.error r) u)
    (live : LiveSpace t space) (known : t.users.contains user = true) :
    r = .failed (.alreadySpaceMember space user) ∧ t.spaceMembers.contains (space, user) = true := by
  obtain ⟨s, found, stays⟩ := live
  have shown : t.space? .live space = some s := by
    rw [Tables.space?, found, Option.filter_some, stays]
    rfl
  simp only [addSpaceMember, Action.demandSpace, Action.demandUser, Action.yields_openUnit_bind,
    Action.refused_demand_bind, Action.refused_write_bind, Action.yields_commitUnit_bind, Action.not_pure_refused,
    and_false, exists_false, or_false] at refused
  rcases refused with ⟨none, -⟩ | ⟨_, -, ⟨none, -⟩ | ⟨_, -, f, conflict, -, rfl, -⟩⟩
  · rw [shown] at none
    cases none
  · obtain ⟨row, there⟩ := Table.contains_eq_true_iff.mp known
    rw [Tables.user?, there] at none
    cases none
  · have there : t.spaces.contains space = true := Table.contains_of_get? found
    simp only [Tables.insertSpaceMember_eq_error_iff, there, known, Bool.true_eq_false, false_and, true_and,
      false_or] at conflict
    exact ⟨congrArg _ conflict.2, conflict.1⟩

theorem live_of_endures (endures : t.Endures u) (there : t.spaces.contains space = true) (live : LiveSpace u space) :
    LiveSpace t space := by
  obtain ⟨s, found⟩ := Table.contains_eq_true_iff.mp there
  obtain ⟨s', found', same⟩ := endures.spaces _ _ found
  obtain ⟨s'', live, stays⟩ := live
  rw [found'] at live
  cases live
  refine ⟨s, found, ?_⟩
  rw [← Bool.not_eq_true]
  intro deleted
  rw [same deleted] at stays
  cases stays

theorem exists_of_joinResult? {result : Except Refusal Answer} (join : x.joinResult? space user = some result) :
    ∃ now role, x = .call now (.addSpaceMember space user role) result := by
  unfold Deed.joinResult? at join
  split at join
  · next now space' user' role result' =>
    split at join
    · next same =>
      cases same
      cases join
      exact ⟨now, role, rfl⟩
    · cases join
  · cases join

/-- What those are told who add the user to the space: nobody has tried yet and there is no membership, or the
first has succeeded and all others have run into it. -/
def Contended (space user : Ident) (t : Tables) (ds : List Deed) : Prop :=
  (ds.filterMap (·.joinResult? space user) = [] ∧ roleIn? t space user = none) ∨
    ∃ a n, ds.filterMap (·.joinResult? space user) =
        .ok a :: List.replicate n (.error (.failed (.alreadySpaceMember space user))) ∧
      (roleIn? t space user).isSome = true

theorem Contended.same (h : Contended space user t ds) (join : x.joinResult? space user = none)
    (role : roleIn? u space user = roleIn? t space user) : Contended space user u (ds ++ [x]) := by
  rw [Contended, filterMap_snoc, join, Option.toList_none, List.append_nil, role]
  exact h

theorem Contended.conflict (h : Contended space user t ds)
    (join : x.joinResult? space user = some (.error (.failed (.alreadySpaceMember space user))))
    (there : (roleIn? t space user).isSome = true) : Contended space user t (ds ++ [x]) := by
  rcases h with ⟨-, absent⟩ | ⟨a, n, results, -⟩
  · rw [absent] at there
    cases there
  · refine .inr ⟨a, n + 1, ?_, there⟩
    rw [filterMap_snoc, results, join, Option.toList_some, List.cons_append, List.replicate_succ']

theorem Contended.snoc (h : Contended space user t ds) (leads : x.Leads t u) (lasts : x.isTeardown = false)
    (stays : x.leaves space user = false) (live : LiveSpace t space) (known : t.users.contains user = true) :
    Contended space user u (ds ++ [x]) := by
  cases leads with
  | teardown => cases lasts
  | @refused c call l r v yields =>
    cases join : (Deed.call c.now call (.error r)).joinResult? space user with
    | none => exact h.same join rfl
    | some result =>
      obtain ⟨now, role, same⟩ := exists_of_joinResult? join
      cases same
      obtain ⟨v', refused⟩ := Action.refused_map yields
      obtain ⟨rfl, there⟩ := conflict_of_join refused live known
      refine h.conflict join ?_
      rw [Option.isSome_iff_ne_none, ne_eq, roleIn?_eq_none_iff, there]
      nofun
  | @answered c call l a u effect =>
    have turn : (Deed.call c.now call (.ok a)).Turn space user (roleIn? t space user) (roleIn? u space user) :=
      turn_of_effect effect
    generalize before : roleIn? t space user = old at turn
    generalize after : roleIn? u space user = new at turn
    obtain ⟨s, found, -⟩ := live
    cases turn with
    | found made =>
      have fresh := (new_of_founds (.answered effect) (decide_eq_true (congrArg (·, user) made))).1
      rw [Table.contains_of_get? found] at fresh
      cases fresh
    | join =>
      rcases h with ⟨none, -⟩ | ⟨a', n, -, there⟩
      · refine .inr ⟨a, 0, ?_, by rw [after]; rfl⟩
        rw [filterMap_snoc, none, Deed.joinResult?, if_pos rfl]
        rfl
      · rw [before] at there
        cases there
    | regrade =>
      rcases h with ⟨-, absent⟩ | ⟨a', n, results, -⟩
      · rw [before] at absent
        cases absent
      · refine .inr ⟨a', n, ?_, by rw [after]; rfl⟩
        rw [filterMap_snoc, results]
        exact List.append_nil _
    | leave =>
      rw [Deed.leaves, decide_eq_true rfl] at stays
      cases stays
    | rest apart =>
      refine h.same ?_ (after.trans before.symm)
      rw [Option.eq_none_iff_forall_ne_some]
      intro result join
      obtain ⟨now, role, same⟩ := exists_of_joinResult? join
      cases same
      have joins := apart.joins
      rw [Deed.joins, join] at joins
      cases joins

theorem contended_of_record (record : Record t ds u) (live : LiveSpace t space) (known : t.users.contains user = true)
    (absent : roleIn? t space user = none) (stay : ∀ x ∈ ds, x.isTeardown = false ∧ x.leaves space user = false)
    (still : LiveSpace u space) : Contended space user u ds := by
  obtain ⟨s, found, -⟩ := live
  induction record with
  | nil => exact .inl ⟨rfl, absent⟩
  | @snoc ds x u v before leads ih =>
    have earlier : ∀ y ∈ ds, y.isTeardown = false ∧ y.leaves space user = false :=
      fun y mem => stay y (List.mem_append_left _ mem)
    obtain ⟨lasts, stays⟩ := stay x (List.mem_append_right _ (.head _))
    have endures : t.Endures u := before.endures fun y mem => (earlier y mem).1
    have there : u.spaces.contains space = true := endures.spaces.contains (Table.contains_of_get? found)
    have opened : LiveSpace u space := live_of_endures (leads.endures lasts) there still
    exact (ih earlier opened).snoc leads lasts stays opened (endures.users.contains known)

end Joins

namespace System

open Function (update)

variable {ι : Type} [DecidableEq ι]

/-- Whatever the clients of an empty store do side by side, since the last teardown: how often the user has come
into the space, by making it or by being added, and how often the user has been removed differ by whether there is
a membership; its role is the last that has been given since it began; and the user is in a channel of the space
if the last that was heard of it is an entry. Where, from there on, a user who is not a member is added to a space
that is and stays live, and is not removed, the first to do so succeeds and all others meet a conflict. -/
theorem memberships_of_course {ids : Generator} {ds : List Deed} {s : System ι} (course : Course (start ids) ds s)
    (space user : Ident) :
    let t := s.store.committed
    let since := sinceTeardown ds
    ((since.countP (·.joins space user) : Int) + (if since.any (·.founds space user) then 1 else 0)
        - since.countP (·.leaves space user) = if t.spaceMembers.contains (space, user) then 1 else 0) ∧
    (∀ role, (∃ m, t.spaceMembers.get? (space, user) = some m ∧ m.role = role) ↔
      Latest (·.Grants space user role)
        (fun y => y.leaves space user = true ∨ ∃ r, y.Grants space user r) since) ∧
    (∀ channel ch, t.channels.get? channel = some ch → ch.space = space →
      (t.channelMembers.contains (channel, user) = true ↔
        Latest (·.Enters user channel)
          (fun y => y.Enters user channel ∨ y.Quits space user channel) since)) ∧
    ∀ es v, Course s es v → LiveSpace t space → LiveSpace v.store.committed space →
      t.users.contains user = true → t.spaceMembers.contains (space, user) = false →
      (∀ x ∈ es, x.isTeardown = false ∧ x.leaves space user = false) →
      es.filterMap (·.joinResult? space user) ≠ [] →
      ∃ a n, es.filterMap (·.joinResult? space user) =
        .ok a :: List.replicate n (.error (.failed (.alreadySpaceMember space user))) := by
  intro t since
  have sound : s.Sound := course.sound (.start ids)
  have record : Record ∅ ds t := course.record (.start ids)
  refine ⟨?_, ?_, ?_, ?_⟩
  · have balanced : Balanced space user t since :=
      record.since .empty fun _ before leads lasts => before.snoc leads lasts
    have count := balanced.count
    have member : (roleIn? t space user).isSome = t.spaceMembers.contains (space, user) := Option.isSome_map
    have toInt (b : Bool) : (if b = true then 1 else 0 : Int) = b.toNat := by cases b <;> rfl
    rw [toInt, toInt, ← member]
    omega
  · have ranked : Ranked space user t since := record.since .empty fun _ before leads lasts => before.snoc leads lasts
    intro role
    rw [← ranked role, roleIn?, Option.map_eq_some_iff]
    rfl
  · intro channel ch found here
    have seated : Seated space user channel t since :=
      record.since .empty fun served before leads lasts => before.snoc served.built leads lasts
    apply seated
    intro ch' found'
    rw [found] at found'
    cases found'
    exact here
  · intro es v onward live still known absent stay tried
    rcases contended_of_record (onward.record sound) live known (roleIn?_eq_none_iff.mpr absent) stay still with
      ⟨none, -⟩ | ⟨a, n, results, -⟩
    · exact absurd none tried
    · exact ⟨a, n, results⟩

/-- Users 1 and 3 are there and space 2 is made by user 1 when two clients set out to add user 3 to it: the one that
comes first succeeds, whoever was first to call. -/
theorem memberships_of_course_contended :
    ∃ (ds es : List Deed) (s v : System Bool),
      Course (start Deployment.blank.ids) ds s ∧ Course s es v ∧
      (s.sessions true).isSome = true ∧ (s.sessions false).isSome = true ∧
      ∃ a, es.filterMap (·.joinResult? ⟨2⟩ ⟨3⟩) =
        [.ok a, .error (.failed (.alreadySpaceMember ⟨2⟩ ⟨3⟩))] := by
  let setup : List Deployment.Event := [.call (.createUser ⟨"ann", none⟩), .call (.createSpace ⟨1⟩ ⟨"home", none⟩),
    .call (.createUser ⟨"bob", none⟩)]
  obtain ⟨d, made⟩ : ∃ d, d = Deployment.blank.after setup := ⟨_, rfl⟩
  let first := Call.addSpaceMember ⟨2⟩ ⟨3⟩ .member
  let second := Call.addSpaceMember ⟨2⟩ ⟨3⟩ .admin
  let one : Bool → Option Session := update (fun _ => none) true (some (.start first d.context))
  let both : Bool → Option Session := update one false (some (.start second d.context))
  have before : Course (start Deployment.blank.ids) (Deployment.blank.history setup) (resting d fun _ => none) :=
    made ▸ course_of_events true Deployment.blank setup
  have called : Course (start Deployment.blank.ids) _ (resting d both) :=
    (before.trans (course_of_submit (i := true) rfl first)).trans (course_of_submit (i := false) rfl second)
  have overtaken : Course (resting d both) [.call d.now second (d.call second).1]
      (resting (d.call second).2 (update both false none)) := course_of_waiting rfl
  have waiting : update both false none true = some (.start first (d.call second).2.context) := by
    rw [Deployment.context_call]
    rfl
  have onward := overtaken.trans (course_of_waiting waiting)
  have there : LiveSpace d.tables ⟨2⟩ := by
    refine ⟨⟨⟨2⟩, "home", "", ⟨1⟩, false, .ofMillis 0, .ofMillis 0⟩, ?_, rfl⟩
    rw [made]
    decide
  obtain ⟨-, -, -, joins⟩ := memberships_of_course called ⟨2⟩ ⟨3⟩
  have still : LiveSpace ((d.call second).2.call first).2.tables ⟨2⟩ := by
    refine ⟨⟨⟨2⟩, "home", "", ⟨1⟩, false, .ofMillis 0, .ofMillis 0⟩, ?_, rfl⟩
    rw [made]
    decide
  have known : d.tables.users.contains ⟨3⟩ = true := by
    rw [made]
    decide
  have absent : d.tables.spaceMembers.contains (⟨2⟩, ⟨3⟩) = false := by
    rw [made]
    decide
  obtain ⟨a, n, results⟩ := joins _ _ onward there still known absent
    (by simp [Deed.isTeardown, Deed.leaves, first, second]) (by simp [Deed.joinResult?, second])
  refine ⟨_, _, _, _, called, onward, rfl, rfl, a, ?_⟩
  have two := congrArg List.length results
  have once : n = 1 := by simpa [Deed.joinResult?, first, second] using two.symm
  rw [results, once]
  rfl

end System

end ChatSpaces.Service
