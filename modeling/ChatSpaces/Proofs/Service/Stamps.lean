import ChatSpaces.Proofs.Service.ContentHistory
import ChatSpaces.Proofs.Service.Sizes

/-!
# Stamps and edits

A space, a channel or a message keeps the time at which it was made and the time of its last change. Where the clock
never moves back, the two are in order and not ahead of the clock. A later edit puts its stamp over that of an earlier
one, so a message tells that it was edited, if not how often: it shows as edited once the clock has moved on from the
post to an edit.
-/

namespace ChatSpaces

open Time (Instant)

/-- Nothing has been changed before it was made, or after the given time. -/
structure Tables.Stamped (t : Tables) (now : Instant) : Prop where
  spaces : t.spaces.Each fun s => s.createdAt ≤ s.updatedAt ∧ s.updatedAt ≤ now
  channels : t.channels.Each fun c => c.createdAt ≤ c.updatedAt ∧ c.updatedAt ≤ now
  messages : t.messages.Each fun m => m.createdAt ≤ m.updatedAt ∧ m.updatedAt ≤ now

namespace Tables.Stamped

variable {t : Tables} {now later : Instant}

theorem empty : Stamped ∅ now := ⟨.empty, .empty, .empty⟩

theorem mono (stamped : t.Stamped now) (onward : now ≤ later) : t.Stamped later where
  spaces k s found := (stamped.spaces k s found).imp_right (Instant.le_trans · onward)
  channels k c found := (stamped.channels k c found).imp_right (Instant.le_trans · onward)
  messages k m found := (stamped.messages k m found).imp_right (Instant.le_trans · onward)

end Tables.Stamped

theorem Time.Instant.restamped {created updated now time later : Instant} (row : created ≤ updated ∧ updated ≤ now)
    (inOrder : now ≤ time) (passed : time ≤ later) : created ≤ time ∧ time ≤ later :=
  ⟨Instant.le_trans row.1 (Instant.le_trans row.2 inOrder), passed⟩

namespace Service

open Time.Instant (restamped)

/-- The call puts a new stamp on a row that is there. It reads the clock in its unit of work. -/
def Call.restamps : Call → Bool
  | renameSpace .. | renameChannel .. | deleteContent .. | editMessage .. | deleteMessageAs .. => true
  | _ => false

namespace Deed

def time? : Deed → Option Instant
  | .call now .. => some now
  | .teardown => none

def restamp? : Deed → Option Instant
  | .call now c (.ok _) => if c.restamps then some now else none
  | _ => none

inductive Edits (i : Ident) (time : Instant) : Deed → Prop
  | edit {actor r a} : Edits i time (.call time (.editMessage actor i r) (.ok a))

/-- The deed can be done while a clock that never moves back goes on from the one time to the other. A call that gives
no row a new stamp may have read the clock long before its end, when others had not yet been at work. -/
structure Fits (x : Deed) (now later : Instant) : Prop where
  onward : now ≤ later
  passed : ∀ time, x.time? = some time → time ≤ later
  inOrder : ∀ time, x.restamp? = some time → now ≤ time

end Deed

/-- A clock that never moves back shows the time after the deeds. -/
inductive Onward : List Deed → Instant → Prop
  | start {now} : Onward [] now
  | snoc {ds x now later} : Onward ds now → x.Fits now later → Onward (ds ++ [x]) later

variable {ds : List Deed} {x : Deed} {now later time : Instant} {i : Ident}

theorem onward_snoc : Onward (ds ++ [x]) later ↔ ∃ now, Onward ds now ∧ x.Fits now later := by
  constructor
  · generalize whole : ds ++ [x] = es
    intro onward
    cases onward with
    | start => simp at whole
    | snoc before fits =>
      obtain ⟨rfl, last⟩ := List.append_inj' whole rfl
      cases last
      exact ⟨_, before, fits⟩
  · rintro ⟨now, before, fits⟩
    exact before.snoc fits

theorem Onward.mono (onward : Onward ds now) (le : now ≤ later) : Onward ds later := by
  cases onward with
  | start => exact .start
  | snoc before fits =>
    refine before.snoc ⟨Instant.le_trans fits.onward le, ?_, fits.inOrder⟩
    exact fun time read => Instant.le_trans (fits.passed time read) le

section Effect

variable {c : Context} {t u : Tables} {call : Call} {l : List Ident} {a : Answer}

theorem stamped_of_delete? {kind : ContentKind} {id : Ident} (stamped : t.Stamped now) (inOrder : now ≤ time)
    (passed : time ≤ later) (ok : kind.delete? t id time = some u) : u.Stamped later := by
  have kept := stamped.mono (Instant.le_trans inOrder passed)
  cases kind with
  | space =>
    obtain ⟨s, found, rfl⟩ := Tables.deleteSpace?_eq_some_iff.mp ok
    have row := restamped (stamped.spaces _ _ found) inOrder passed
    split
    · exact kept
    · exact { kept with spaces := kept.spaces.insert _ row }
  | channel =>
    obtain ⟨ch, found, rfl⟩ := Tables.deleteChannel?_eq_some_iff.mp ok
    have row := restamped (stamped.channels _ _ found) inOrder passed
    split
    · exact kept
    · exact { kept with channels := kept.channels.insert _ row }
  | message =>
    obtain ⟨m, found, rfl⟩ := Tables.deleteMessage?_eq_some_iff.mp ok
    have row := restamped (stamped.messages _ _ found) inOrder passed
    split
    · exact kept
    · exact { kept with messages := kept.messages.insert _ row }

/-- A row that is made has both stamps from one reading, and one that is changed has been stamped before. -/
theorem stamped_of_effect (stamped : t.Stamped now) (onward : now ≤ later) (passed : c.now ≤ later)
    (inOrder : call.restamps = true → now ≤ c.now) (effect : Effect c t call l a u) : u.Stamped later := by
  have kept := stamped.mono onward
  have new : c.now ≤ c.now ∧ c.now ≤ later := ⟨Instant.le_refl _, passed⟩
  cases effect with
  | look => exact kept
  | createUser _ _ ok =>
    obtain ⟨-, -, rfl⟩ := Tables.insertUser_eq_ok_iff.mp ok
    exact { kept with }
  | createSpace _ made ok joined =>
    obtain ⟨-, -, rfl⟩ := Tables.insertSpace_eq_ok_iff.mp ok
    obtain ⟨-, -, -, rfl⟩ := Tables.insertSpaceMember_eq_ok_iff.mp joined
    subst made
    exact { kept with spaces := kept.spaces.insert _ new }
  | createChannel _ _ made ok =>
    obtain ⟨-, -, rfl⟩ := Tables.insertChannel_eq_ok_iff.mp ok
    subst made
    exact { kept with channels := kept.channels.insert _ new }
  | renameSpace _ _ _ made ok =>
    obtain ⟨stored, found, -, rfl⟩ := Tables.updateSpace?_eq_some_iff.mp ok
    have row := restamped (stamped.spaces _ _ found) (inOrder rfl) passed
    subst made
    exact { kept with spaces := kept.spaces.insert _ row }
  | renameChannel _ _ _ made ok =>
    obtain ⟨stored, found, -, rfl⟩ := Tables.updateChannel?_eq_some_iff.mp ok
    have row := restamped (stamped.channels _ _ found) (inOrder rfl) passed
    subst made
    exact { kept with channels := kept.channels.insert _ row }
  | deleteContent ok => exact stamped_of_delete? stamped (inOrder rfl) passed ok
  | postMessage _ _ made ok =>
    obtain ⟨-, -, -, rfl⟩ := Tables.insertMessage_eq_ok_iff.mp ok
    subst made
    exact { kept with messages := kept.messages.insert _ new }
  | editMessage _ _ _ _ made ok =>
    obtain ⟨stored, found, -, rfl⟩ := Tables.updateMessage?_eq_some_iff.mp ok
    have row := restamped (stamped.messages _ _ found) (inOrder rfl) passed
    subst made
    exact { kept with messages := kept.messages.insert _ row }
  | attachMedia _ _ _ ok =>
    obtain ⟨-, -, rfl⟩ := Tables.insertMedia_eq_ok_iff.mp ok
    exact { kept with }
  | deleteMessageAs _ _ ok =>
    exact stamped_of_delete? stamped (inOrder rfl) passed (show ContentKind.delete? t .message _ _ = some u from ok)
  | addSpaceMember _ _ ok =>
    obtain ⟨-, -, -, rfl⟩ := Tables.insertSpaceMember_eq_ok_iff.mp ok
    exact { kept with }
  | addChannelMember _ _ _ ok =>
    obtain ⟨-, -, -, rfl⟩ := Tables.insertChannelMember_eq_ok_iff.mp ok
    exact { kept with }
  | leaveSpace =>
    rw [Tables.getD_removeSpaceMember?]
    exact { kept with }
  | leaveChannel =>
    rw [Tables.getD_removeChannelMember?]
    exact { kept with }
  | setSpaceRole _ ok =>
    obtain ⟨stored, -, -, rfl⟩ := Tables.setRole?_eq_some_iff.mp ok
    exact { kept with }
  | restrain _ _ _ ok =>
    obtain ⟨-, rfl⟩ := Tables.putRestraint_eq_ok_iff.mp ok
    exact { kept with }
  | revokeRestraint =>
    rw [Tables.getD_removeRestraint?]
    exact { kept with }
  | purgeExpired => exact { kept with }

theorem Deed.Leads.stamped (leads : x.Leads t u) (stamped : t.Stamped now) (fits : x.Fits now later) :
    u.Stamped later := by
  cases leads with
  | answered effect =>
    exact stamped_of_effect stamped fits.onward (fits.passed _ rfl) (fun news => fits.inOrder _ (if_pos news)) effect
  | refused => exact stamped.mono fits.onward
  | teardown => exact .empty

end Effect

theorem isEdited_eq_false {m : Message} (gone : m.deleted = true) : m.isEdited = false := by
  rw [Message.isEdited, gone, Bool.not_true, Bool.false_and]

def EditedAt (i : Ident) (ds : List Deed) (time : Instant) : Prop := ∃ x ∈ ds, x.Edits i time

theorem editedAt_snoc : EditedAt i (ds ++ [x]) time ↔ EditedAt i ds time ∨ x.Edits i time := by
  simp [EditedAt, or_and_right, exists_or]

theorem Deed.Spares.not_edits (spares : x.Spares i) (time : Instant) : ¬ x.Edits i time := by
  rintro ⟨⟩
  have edited := spares.edit
  rw [Deed.edit?, if_pos rfl] at edited
  cases edited

/-- What the last stamp of a message tells of its edits. That of a deleted one tells nothing of them. -/
inductive EditsShown (i : Ident) (ds : List Deed) : Option Message → Prop
  | absent (unedited : ∀ time, ¬ EditedAt i ds time) : EditsShown i ds none
  | deleted {m} (gone : m.deleted = true) : EditsShown i ds (some m)
  | live {m} (last : m.updatedAt = m.createdAt ∨ EditedAt i ds m.updatedAt)
      (upTo : ∀ time, EditedAt i ds time → time ≤ m.updatedAt) : EditsShown i ds (some m)

namespace EditsShown

variable {t : Tables} {row after : Option Message} {m : Message}

theorem snoc (shown : EditsShown i ds row) (amends : x.Amends i t row after)
    (inOrder : ∀ m, row = some m → ∀ time, x.restamp? = some time → m.updatedAt ≤ time) :
    EditsShown i (ds ++ [x]) after := by
  cases amends with
  | post =>
    cases shown with
    | absent unedited =>
      refine .live (.inl rfl) ?_
      intro time edited
      rcases editedAt_snoc.mp edited with earlier | ⟨⟨⟩⟩
      exact absurd earlier (unedited time)
  | @edit now r m exposed =>
    cases shown with
    | deleted gone =>
      rw [exposed.1] at gone
      cases gone
    | live last upTo =>
      refine .live (.inr (editedAt_snoc.mpr (.inr .edit))) ?_
      intro time edited
      rcases editedAt_snoc.mp edited with earlier | ⟨⟨⟩⟩
      · exact Instant.le_trans (upTo time earlier) (inOrder m rfl now rfl)
      · exact Instant.le_refl _
  | delete => exact .deleted (marked_deleted _ _)
  | withdraw => exact .deleted (marked_deleted _ _)
  | rest spares =>
    have same (time : Instant) : EditedAt i (ds ++ [x]) time ↔ EditedAt i ds time :=
      editedAt_snoc.trans (or_iff_left (spares.not_edits time))
    cases shown with
    | absent unedited => exact .absent fun time edited => unedited time ((same time).mp edited)
    | deleted gone => exact .deleted gone
    | live last upTo =>
      exact .live (last.imp_right (same _).mpr) fun time edited => upTo time ((same time).mp edited)

/-- An edit in the very instant of the post does not show. -/
theorem isEdited_iff (shown : EditsShown i ds (some m)) (stays : m.deleted = false) :
    m.isEdited = true ↔ ∃ time, EditedAt i ds time ∧ m.createdAt < time := by
  rw [Message.isEdited, stays, Bool.not_false, Bool.true_and, decide_eq_true_eq]
  cases shown with
  | deleted gone =>
    rw [stays] at gone
    cases gone
  | live last upTo =>
    constructor
    · intro moved
      rcases last with same | edited
      · rw [same] at moved
        exact absurd moved ((Instant.not_lt _ _).mpr (Instant.le_refl _))
      · exact ⟨m.updatedAt, edited, moved⟩
    · rintro ⟨time, edited, moved⟩
      exact Instant.lt_of_lt_of_le moved (upTo time edited)

end EditsShown

theorem Record.stamps {t : Tables} (record : Record ∅ ds t) (onward : Onward ds now) :
    t.Stamped now ∧ ∀ i, EditsShown i (sinceTeardown ds) (t.messages.get? i) := by
  -- The two go together: an edit comes after all earlier ones because no stamp is ahead of the clock.
  induction record generalizing now with
  | nil => exact ⟨.empty, fun i => .absent fun time edited => by simp [EditedAt, sinceTeardown] at edited⟩
  | @snoc ds x u v before leads ih =>
    obtain ⟨past, earlier, fits⟩ := onward_snoc.mp onward
    obtain ⟨stamped, shown⟩ := ih earlier
    refine ⟨leads.stamped stamped fits, fun i => ?_⟩
    cases lasts : x.isTeardown with
    | false =>
      rw [sinceTeardown_snoc lasts]
      refine (shown i).snoc (leads.amends (before.served .empty).built lasts i) ?_
      intro m found time restamp
      exact Instant.le_trans (stamped.messages i m found).2 (fits.inOrder time restamp)
    | true =>
      cases leads with
      | teardown =>
        rw [sinceTeardown_teardown]
        exact .absent fun time edited => by simp [EditedAt] at edited
      | _ => cases lasts

namespace Deployment

variable {d : Deployment} {es : List Event}

def Forward (d : Deployment) : List Event → Prop
  | [] => True
  | e :: es => d.now ≤ (d.handle e).now ∧ (d.handle e).Forward es

instance decidableForward (d : Deployment) : (es : List Event) → Decidable (d.Forward es)
  | [] => .isTrue trivial
  | e :: es =>
    have := decidableForward (d.handle e) es
    inferInstanceAs (Decidable (_ ∧ _))

theorem fits_call (d : Deployment) (c : Call) : (Deed.call d.now c (d.call c).1).Fits d.now (d.call c).2.now := by
  have same : (d.call c).2.now = d.now := congrArg Context.now (context_call d c)
  rw [same]
  refine ⟨Instant.le_refl _, ?_, ?_⟩
  · rintro time ⟨⟩
    exact Instant.le_refl _
  · intro time restamp
    generalize (d.call c).1 = result at restamp
    cases result with
    | error r => cases restamp
    | ok a =>
      obtain ⟨-, read⟩ := Option.ite_none_right_eq_some.mp restamp
      cases read
      exact Instant.le_refl _

theorem onward_append_history (forward : d.Forward es) (before : Onward ds d.now) :
    Onward (ds ++ d.history es) (d.after es).now := by
  induction es generalizing d ds with
  | nil =>
    rw [history, List.append_nil]
    exact before
  | cons e es ih =>
    obtain ⟨onward, rest⟩ := forward
    rw [history, ← List.append_assoc]
    refine ih rest ?_
    cases e with
    | call c => exact before.snoc (fits_call d c)
    | teardown => exact before.snoc ⟨onward, by rintro time ⟨⟩, by rintro time ⟨⟩⟩
    | draw | advance | setClock | setWall =>
      rw [deed?, Option.toList_none, List.append_nil]
      exact before.mono onward

/-- In the history of a run the clock never moves back if it has not done so in the run. -/
theorem onward_history (forward : d.Forward es) : Onward (d.history es) (d.after es).now :=
  onward_append_history forward .start

end Deployment

namespace System

variable {ι : Type} [DecidableEq ι]

/-- Whatever the clients of an empty store do side by side while the clock never moves back: no space, channel or
message has been changed before it was made or after the time that the clock shows. A message that is there shows as
edited if and only if it was edited, and not only in the instant of its post; from then on it does so until it is
deleted, and a deleted one never does. -/
theorem stamps_tell_edits {ids : Generator} {ds : List Deed} {s : System ι} (course : Course (start ids) ds s)
    {now : Instant} (onward : Onward ds now) :
    s.store.committed.Stamped now ∧
    ∀ i m, s.store.committed.messages.get? i = some m →
      (m.deleted = true → m.isEdited = false) ∧
      (m.deleted = false →
        (m.isEdited = true ↔ ∃ time, EditedAt i (sinceTeardown ds) time ∧ m.createdAt < time)) ∧
      (m.isEdited = true → ∀ es v later, Course s es v → Onward (ds ++ es) later →
        (∀ x ∈ es, x.isTeardown = false) →
        ∃ n, v.store.committed.messages.get? i = some n ∧ (n.deleted = false → n.isEdited = true)) := by
  obtain ⟨stamped, shown⟩ := (course.record (.start ids)).stamps onward
  refine ⟨stamped, fun i m found => ?_⟩
  have tells : EditsShown i (sinceTeardown ds) (some m) := found ▸ shown i
  refine ⟨isEdited_eq_false, tells.isEdited_iff, ?_⟩
  intro edited es v later more onward' lasting
  have stays : m.deleted = false := by
    by_contra gone
    rw [isEdited_eq_false (eq_true_of_ne_false gone)] at edited
    cases edited
  -- The message is the same one later, so the edit that shows now is among those that are asked for then.
  obtain ⟨n, found', given, -⟩ := ((more.record (course.sound (.start ids))).persists lasting).messages i m found
  have made : n.createdAt = m.createdAt := congrArg (·.2.2.2) given
  obtain ⟨-, shown'⟩ := ((course.trans more).record (.start ids)).stamps onward'
  have tells' : EditsShown i (sinceTeardown ds ++ es) (some n) :=
    sinceTeardown_append lasting ▸ found' ▸ shown' i
  obtain ⟨time, ⟨x, mem, edits⟩, moved⟩ := (tells.isEdited_iff stays).mp edited
  refine ⟨n, found', fun stays' => (tells'.isEdited_iff stays').mpr ⟨time, ⟨x, ?_, edits⟩, ?_⟩⟩
  · exact List.mem_append_left _ mem
  · rw [made]
    exact moved

/-- Message 4 is edited in the instant of its post and a millisecond later, and shows as edited. It still does when its
space has been renamed and the clock has moved on. -/
theorem stamps_tell_edits_later :
    let es : List Deployment.Event := [.call (.createUser ⟨"ann", none⟩), .call (.createSpace ⟨1⟩ ⟨"home", none⟩),
      .call (.createChannel ⟨2⟩ ⟨"news"⟩), .call (.addChannelMember ⟨3⟩ ⟨1⟩), .call (.postMessage ⟨3⟩ ⟨1⟩ ⟨"helo"⟩),
      .call (.editMessage ⟨1⟩ ⟨4⟩ ⟨"hello"⟩), .advance 1, .call (.editMessage ⟨1⟩ ⟨4⟩ ⟨"hello all"⟩)]
    let fs : List Deployment.Event := [.call (.renameSpace ⟨1⟩ ⟨2⟩ ⟨"house", none⟩), .advance 1]
    let d := Deployment.blank.after es
    Deployment.blank.Forward (es ++ fs) ∧ d.tables.Stamped d.now ∧
      (∃ m, d.tables.messages.get? ⟨4⟩ = some m ∧ m.isEdited = true) ∧
      ∃ n, (d.after fs).tables.messages.get? ⟨4⟩ = some n ∧ n.isEdited = true := by
  intro es fs d
  let m : Message := ⟨⟨4⟩, ⟨3⟩, ⟨1⟩, "hello all", false, .ofMillis 0, .ofMillis 1⟩
  have found : d.tables.messages.get? ⟨4⟩ = some m := by decide
  have onward : Onward (Deployment.blank.history es) d.now := Deployment.onward_history (by decide)
  have onward' : Onward (Deployment.blank.history es ++ d.history fs) (d.after fs).now :=
    Deployment.onward_append_history (by decide) onward
  obtain ⟨stamped, tells⟩ := stamps_tell_edits (course_of_events true Deployment.blank es) onward
  obtain ⟨-, shows, lasts⟩ := tells ⟨4⟩ m found
  have edited : m.isEdited = true :=
    (shows rfl).mpr ⟨.ofMillis 1, ⟨.call (.ofMillis 1) (.editMessage ⟨1⟩ ⟨4⟩ ⟨"hello all"⟩) (.ok (.one .message m)),
      List.mem_of_getElem? (i := 6) rfl, .edit⟩, by decide⟩
  obtain ⟨n, found', still⟩ := lasts edited _ _ _ (course_of_events true d fs) onward' (by decide)
  cases found'.symm.trans (show (d.after fs).tables.messages.get? ⟨4⟩ = some m by decide)
  exact ⟨by decide, stamped, ⟨m, found, edited⟩, m, found', still rfl⟩

end System

end Service

end ChatSpaces
