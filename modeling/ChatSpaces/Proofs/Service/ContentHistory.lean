import ChatSpaces.Proofs.Service.Content
import ChatSpaces.Proofs.Service.Course

/-!
# Content and history

Nothing that was posted is lost: the reads that take deleted rows too find each message and its media as the history
of the service tells of them, whatever has been deleted since.
-/

namespace ChatSpaces.Service

/-- The row under an identifier is what the deeds tell of it. -/
inductive Told (i : Ident) (ds : List Deed) : Option Message → Prop
  | absent (posted : ds.filterMap (·.posted? i) = []) (edits : ds.filterMap (·.edit? i) = [])
      (deletes : ds.any (·.deletes i) = false) : Told i ds none
  | stored {m p} (posted : ds.filterMap (·.posted? i) = [p]) (given : m.given = p.given)
      (body : m.body = ((ds.filterMap (·.edit? i)).getLast?).getD p.body)
      (deleted : m.deleted = ds.any (·.deletes i)) : Told i ds (some m)

def Attached (i : Ident) (ds : List Deed) (media : Table Ident Media) : Prop :=
  (media.rows.filter (·.message = i)).Perm (ds.filterMap (·.attached? i))

variable {i : Ident} {t u : Tables} {ds : List Deed} {x : Deed}

theorem any_snoc (f : Deed → Bool) : (ds ++ [x]).any f = (ds.any f || f x) := by
  rw [List.any_append, List.any_cons, List.any_nil, Bool.or_false]

namespace Told

theorem marked {now : Time.Instant} {m : Message} (told : Told i ds (some m)) (posted : x.posted? i = none)
    (edit : x.edit? i = none) (deletes : x.deletes i = true) : Told i (ds ++ [x]) (some (marked now m)) := by
  cases told with
  | stored once given body =>
    refine .stored ?_ ((marked_given _ _).trans given) ?_ ?_
    · rw [filterMap_snoc, posted, Option.toList_none, List.append_nil]
      exact once
    · rw [filterMap_snoc, edit, Option.toList_none, List.append_nil, marked_body]
      exact body
    · rw [marked_deleted, any_snoc, deletes, Bool.or_true]

theorem snoc {row after : Option Message} (told : Told i ds row) (amends : x.Amends i t row after) :
    Told i (ds ++ [x]) after := by
  cases amends with
  | post =>
    cases told with
    | absent posted edits deletes =>
      refine .stored ?_ rfl ?_ ?_
      · rw [filterMap_snoc, posted, Deed.posted?_postMessage, if_pos rfl]
        rfl
      · rw [filterMap_snoc, edits]
        rfl
      · rw [any_snoc, deletes]
        rfl
  | @edit now r m =>
    cases told with
    | stored posted given body deleted =>
      refine .stored ?_ given ?_ ?_
      · rw [filterMap_snoc, posted]
        rfl
      · rw [filterMap_snoc, Deed.edit?, if_pos rfl, Option.toList_some, List.getLast?_append]
        rfl
      · rw [any_snoc, ← deleted]
        exact (Bool.or_false _).symm
  | delete => exact told.marked rfl rfl (decide_eq_true rfl)
  | withdraw => exact told.marked rfl rfl (decide_eq_true rfl)
  | rest spares =>
    cases told with
    | absent posted edits deletes =>
      refine .absent ?_ ?_ ?_
      · rw [filterMap_snoc, spares.posted, posted]
        rfl
      · rw [filterMap_snoc, spares.edit, edits]
        rfl
      · rw [any_snoc, spares.deletes, deletes]
        rfl
    | stored posted given body deleted =>
      refine .stored ?_ given ?_ ?_
      · rw [filterMap_snoc, spares.posted, posted]
        rfl
      · rw [filterMap_snoc, spares.edit, Option.toList_none, List.append_nil]
        exact body
      · rw [any_snoc, spares.deletes, Bool.or_false]
        exact deleted

end Told

theorem Record.told (record : Record ∅ ds t) (i : Ident) : Told i (sinceTeardown ds) (t.messages.get? i) :=
  record.since (motive := fun t es => Told i es (t.messages.get? i)) (.absent rfl rfl rfl)
    fun served before leads lasts => before.snoc (leads.amends served.built lasts i)

theorem Attached.snoc {media after : Table Ident Media} (h : Attached i ds media)
    (enriches : x.Enriches t media after) : Attached i (ds ++ [x]) after := by
  unfold Attached
  rw [filterMap_snoc]
  cases enriches with
  | rest spares =>
    rw [spares i, Option.toList_none, List.append_nil]
    exact h
  | @attach now r y m _ fresh =>
    have rows := (Table.perm_rows_insert y fresh).filter (fun z => z.message = i)
    refine rows.trans ?_
    by_cases here : y.message = i
    · have shown : (y :: media.rows).filter (fun z => z.message = i) = y :: media.rows.filter (·.message = i) :=
        List.filter_cons_of_pos (decide_eq_true here)
      rw [shown, Deed.attached?_attachMedia, if_pos here]
      exact (h.cons y).trans (List.perm_append_singleton y _).symm
    · have shown : (y :: media.rows).filter (fun z => z.message = i) = media.rows.filter (·.message = i) :=
        List.filter_cons_of_neg (by simpa using here)
      rw [shown, Deed.attached?_attachMedia, if_neg here, Option.toList_none, List.append_nil]
      exact h

namespace System

variable {ι : Type} [DecidableEq ι]

/-- Whatever the clients of an empty store do side by side, since the last teardown: whoever asks for a message,
deleted or not, is given one if it was posted. It was posted once; channel, author and time are those of the post, the
body is that of the last edit, if there was one, and it is marked deleted if somebody has deleted it. Its media is what
has been attached to it, in the order of the identifiers. -/
theorem content_is_history {ids : Generator} {ds : List Deed} {s : System ι} (course : Course (start ids) ds s)
    {d : Deployment} (reads : d.tables = s.store.committed) (i : Ident) :
    let since := sinceTeardown ds
    ((∃ a, (d.call (.message .all i)).1 = .ok a) ↔ ∃ p, p ∈ since.filterMap (·.posted? i)) ∧
    ∀ a, (d.call (.message .all i)).1 = .ok a → ∃ m p listed,
      a = .one .message m ∧ since.filterMap (·.posted? i) = [p] ∧ m.id = i ∧ m.channel = p.channel ∧
      m.author = p.author ∧ m.createdAt = p.createdAt ∧
      m.body = ((since.filterMap (·.edit? i)).getLast?).getD p.body ∧ m.deleted = since.any (·.deletes i) ∧
      (d.call (.mediaOfMessage .all i)).1 = .ok (.many .media listed) ∧
      listed.Perm (since.filterMap (·.attached? i)) ∧ listed.Pairwise fun x y => x.id < y.id := by
  intro since
  have record : Record ∅ ds d.tables := by
    rw [reads]
    exact course.record (.start ids)
  have built : d.tables.Built := (record.served .empty).built
  have told : Told i since (d.tables.messages.get? i) := record.told i
  have attached : Attached i since d.tables.media :=
    record.since (motive := fun t es => Attached i es t.media) (.refl _)
      fun _ before leads lasts => before.snoc (leads.enriches lasts)
  rw [Deployment.call_message, Deployment.call_mediaOfMessage, built.linked.message?_all, built.linked.mediaOf_all]
  cases found : d.tables.messages.get? i with
  | none =>
    rw [found] at told
    cases told with
    | absent posted => simp [posted]
  | some m =>
    rw [found] at told
    have own : m.id = i := built.keyed.messages _ _ found
    have increasing := built.keyed.media.pairwise_rows.filter fun x => decide (x.message = i)
    cases told with
    | @stored m p posted given body deleted =>
      obtain ⟨-, channel, author, createdAt⟩ := by simpa only [Message.given, Prod.mk.injEq] using given
      refine ⟨by simp [posted], ?_⟩
      rintro a ⟨⟩
      exact ⟨m, p, _, rfl, posted, own, channel, author, createdAt, body, deleted, rfl, attached, increasing⟩

/-- Message 4 is posted, edited, given two media and deleted, its space is deleted, and it is edited in vain: it is
still there with the body that it was given before, and so is its media. -/
theorem content_is_history_deleted :
    let es : List Deployment.Event := [.call (.createUser ⟨"ann", none⟩), .call (.createSpace ⟨1⟩ ⟨"home", none⟩),
      .call (.createChannel ⟨2⟩ ⟨"news"⟩), .call (.addChannelMember ⟨3⟩ ⟨1⟩), .call (.postMessage ⟨3⟩ ⟨1⟩ ⟨"hello"⟩),
      .call (.editMessage ⟨1⟩ ⟨4⟩ ⟨"hello all"⟩), .call (.attachMedia ⟨4⟩ ⟨"first", "image/png"⟩),
      .call (.attachMedia ⟨4⟩ ⟨"second", "image/png"⟩), .call (.deleteContent .message ⟨4⟩),
      .call (.deleteContent .space ⟨2⟩), .call (.editMessage ⟨1⟩ ⟨4⟩ ⟨"bye"⟩)]
    let d := Deployment.blank.after es
    ∃ m listed, (d.call (.message .all ⟨4⟩)).1 = .ok (.one .message m) ∧ m.body = "hello all" ∧ m.deleted = true ∧
      (d.call (.mediaOfMessage .all ⟨4⟩)).1 = .ok (.many .media listed) ∧
      (listed.map (·.storageRef)).Perm ["first", "second"] := by
  intro es d
  have course : Course (start Deployment.blank.ids) _ _ := course_of_events true Deployment.blank es
  obtain ⟨posted, told⟩ := content_is_history course (committed_resting d _).symm ⟨4⟩
  obtain ⟨a, answered⟩ := posted.mpr ⟨⟨⟨4⟩, ⟨3⟩, ⟨1⟩, "hello", false, .ofMillis 0, .ofMillis 0⟩, by decide⟩
  obtain ⟨m, p, listed, rfl, -, -, -, -, -, body, deleted, media, attached, -⟩ := told a answered
  exact ⟨m, listed, answered, body, deleted, media, attached.map (·.storageRef)⟩

end System

end ChatSpaces.Service
