import ChatSpaces.Proofs.Service.Drawing
import ChatSpaces.Proofs.Service.Record
import ChatSpaces.Proofs.Service.Solo

/-!
# What clients are told

A course is a run of clients together with what they are told, in the order in which their calls end: a call
that writes is answered when it commits, and a call that looks or is refused when its unit of work is dropped.
Whatever the clients do side by side, what they have been told is a record of the committed tables.

A timed course also keeps the readings of the wall clock at which identifiers are drawn.
-/

namespace ChatSpaces.Service

open Function (update)

namespace System

variable {ι : Type} [DecidableEq ι]

/-- One step of one client, and what comes of it for whoever keeps the record. -/
inductive Step (s : System ι) : Option Deed → System ι → Prop
  | commit {i c call l a u} (move : Move s (some (.call i c call l a)) u) :
      Step s (some (.call c.now call (.ok a))) u
  | teardown {i u} (move : Move s (some (.teardown i)) u) : Step s (some .teardown) u
  | tell {i x result u} (busy : s.sessions i = some x) (ended : x.rest.result? = some result) (move : Move s none u)
      (idle : u.sessions i = none) :
      Step s (some (.call x.context.now x.call result)) u
  /-- Nobody is told anything; a client may also give up here. -/
  | quiet {u} (move : Move s none u) : Step s none u

inductive Course (s : System ι) : List Deed → System ι → Prop
  | refl : Course s [] s
  | step {ds u o v} : Course s ds u → Step u o v → Course s (ds ++ o.toList) v

variable {s u v : System ι} {ds es : List Deed} {o : Option Deed}

theorem Course.trans (first : Course s ds u) (second : Course u es v) : Course s (ds ++ es) v := by
  induction second with
  | refl =>
    rw [List.append_nil]
    exact first
  | step _ step ih =>
    rw [← List.append_assoc]
    exact ih.step step

theorem Step.move (step : Step s o u) : ∃ c, Move s c u := by
  cases step with
  | commit move => exact ⟨_, move⟩
  | teardown move => exact ⟨_, move⟩
  | tell _ _ move _ => exact ⟨_, move⟩
  | quiet move => exact ⟨_, move⟩

theorem Course.sound (sound : s.Sound) (course : Course s ds u) : u.Sound := by
  induction course with
  | refl => exact sound
  | step _ step ih =>
    obtain ⟨c, move⟩ := step.move
    exact ih.move move

omit [DecidableEq ι] in
/-- A call that is refused is so for what is committed at that moment. -/
theorem Sound.yields_of_refused (sound : s.Sound) {i : ι} {x : Session} {r : Refusal}
    (busy : s.sessions i = some x) (refused : x.rest = .refuse r) :
    ∃ l v, (x.call.perform x.context).Yields l s.store.committed (.error r) v := by
  have completes := sound.completes i x busy
  obtain ⟨call, c, drawn, _⟩ := x
  cases refused
  cases copy : s.store.copies i with
  | none =>
    rw [copy] at completes
    exact ⟨_, _, completes.2 [] s.store.committed (.error r) s.store.committed ⟨rfl, rfl, rfl⟩⟩
  | some t =>
    rw [copy] at completes
    exact ⟨_, _, completes.2 [] (.error r) t ⟨rfl, rfl, rfl⟩⟩

omit [DecidableEq ι] in
theorem Sound.isRead_of_answered (sound : s.Sound) {i : ι} {x : Session} {a : Answer}
    (busy : s.sessions i = some x) (ended : x.rest.result? = some (.ok a)) : x.call.isRead = true := by
  cases rest : x.rest with
  | done b => exact sound.isRead_of_done busy rest
  | _ =>
    rw [rest] at ended
    cases ended

theorem Step.leads (sound : s.Sound) {x : Deed} (step : Step s (some x) u) :
    x.Leads s.store.committed u.store.committed := by
  cases step with
  | commit move => exact .answered (effect_of_commit sound move)
  | teardown move =>
    rw [committed_of_teardown sound move]
    exact .teardown
  | @tell i x result u busy ended move idle =>
    rw [committed_of_quiet sound move]
    cases result with
    | ok a => exact .answered (.look (sound.isRead_of_answered busy ended))
    | error r =>
      have refused : x.rest = .refuse r := by
        cases rest : x.rest <;> rw [rest] at ended <;> cases ended
        rfl
      obtain ⟨l, v, yields⟩ := sound.yields_of_refused busy refused
      exact .refused yields

theorem Course.record (sound : s.Sound) (course : Course s ds u) :
    Record s.store.committed ds u.store.committed := by
  induction course with
  | refl => exact .nil
  | @step ds u o v before step ih =>
    cases o with
    | none =>
      cases step with
      | quiet move =>
        rw [Option.toList_none, List.append_nil, committed_of_quiet (before.sound sound) move]
        exact ih
    | some x => exact ih.snoc (step.leads (before.sound sound))

/-- What is committed after a course from the start has been made by answers of the services. -/
theorem Course.served {ids : Generator} (course : Course (start ids) ds s) : Served s.store.committed :=
  (course.record (.start ids)).served .empty

/-- Steps of the clients in any order, what they have been told, and the readings at which identifiers have been
drawn, by the clients or for something else. -/
inductive Timed (s : System ι) : List Deed → List Int → System ι → Prop
  | refl : Timed s [] [] s
  | step {ds walls u o v read} (before : Timed s ds walls u) (step : Step u o v) (reads : Reads u v read) :
      Timed s (ds ++ o.toList) (walls ++ read.toList) v

section Timed

theorem Course.timed (course : Course s ds u) : ∃ walls, Timed s ds walls u := by
  induction course with
  | refl => exact ⟨[], .refl⟩
  | step _ step ih =>
    obtain ⟨walls, before⟩ := ih
    obtain ⟨c, move⟩ := step.move
    obtain ⟨read, reads⟩ := move.reads
    exact ⟨_, before.step step reads⟩

variable {walls walls' : List Int}

theorem Timed.course (timed : Timed s ds walls u) : Course s ds u := by
  induction timed with
  | refl => exact .refl
  | step _ step _ ih => exact ih.step step

theorem Timed.trans (first : Timed s ds walls u) (second : Timed u es walls' v) :
    Timed s (ds ++ es) (walls ++ walls') v := by
  induction second with
  | refl =>
    rw [List.append_nil, List.append_nil]
    exact first
  | step _ step reads ih =>
    rw [← List.append_assoc, ← List.append_assoc]
    exact ih.step step reads

theorem Timed.head {read : Option Int} (move : Move s none u) (reads : Reads s u read) (rest : Timed u ds walls v) :
    Timed s ds (read.toList ++ walls) v :=
  ((Timed.refl (s := s)).step (.quiet move) reads).trans rest

theorem Quiet.timed (quiet : Quiet s walls u) : Timed s [] walls u := by
  induction quiet with
  | refl => exact .refl
  | head move reads _ ih => exact .head move reads ih

theorem Timed.deed {x : Deed} (before : Timed s [] walls u) (step : Step u (some x) v) (reads : Reads u v none) :
    Timed s [x] walls v := by
  have both := before.step step reads
  rwa [Option.toList_none, List.append_nil] at both

end Timed

section Alone

variable {i : ι} {d : Deployment} {call : Call} {c : Context}

/-- A client whom nobody interrupts is told what the deployment answers. -/
theorem timed_of_session (d : Deployment) (call : Call) (free : s.store.holder = none)
    (same : s.store.committed = d.tables) :
    Timed (s.withClient i (.start call d.context) none d.ids) [.call d.now call (d.call call).1]
      (d.readingsOfCall call) (s.withoutClient i (d.call call).2.tables (d.call call).2.ids) := by
  obtain ⟨drawn, u, quiet, last, reads⟩ := quiet_session (i := i) d call free same
  generalize (d.call call).1 = result at last ⊢
  generalize commit? i d call drawn = committed at last
  cases last with
  | commit move => exact quiet.timed.deed (.commit move) reads
  | drop busy ended move idle => exact quiet.timed.deed (.tell busy ended move idle) reads

theorem timed_of_waiting {sessions : ι → Option Session} (waiting : sessions i = some (.start call d.context)) :
    Timed (resting d sessions) [.call d.now call (d.call call).1] (d.readingsOfCall call)
      (resting (d.call call).2 (update sessions i none)) := by
  have timed := timed_of_session (s := resting d sessions) (i := i) d call rfl rfl
  have here : (resting d sessions).withClient i (.start call d.context) none d.ids = resting d sessions := by
    simp [resting, withClient, ← waiting]
  have there : (resting d sessions).withoutClient i (d.call call).2.tables (d.call call).2.ids =
      resting (d.call call).2 (update sessions i none) := by
    simp [resting, withoutClient]
  rwa [here, there] at timed

theorem timed_of_submit {sessions : ι → Option Session} (idle : sessions i = none) (call : Call) :
    Timed (resting d sessions) [] [] (resting d (update sessions i (some (.start call d.context)))) :=
  Timed.refl.head (.submit (s := resting d sessions) idle call d.context)
    (reads_of_update (by rintro _ ⟨⟩; exact .inl rfl))

theorem timed_of_call (sessions : ι → Option Session) (idle : sessions i = none) (call : Call) :
    Timed (resting d sessions) [.call d.now call (d.call call).1] (d.readingsOfCall call)
      (resting (d.call call).2 sessions) := by
  have waiting : update sessions i (some (.start call d.context)) i = some (.start call d.context) :=
    Function.update_self ..
  have timed := (timed_of_submit idle call).trans (timed_of_waiting waiting)
  rwa [Function.update_idem, ← idle, Function.update_eq_self] at timed

/-- Everything that happens to a deployment is a course of one client. -/
theorem timed_of_event (i : ι) (d : Deployment) (e : Deployment.Event) :
    Timed (resting d fun _ => none : System ι) (d.deed? e).toList (d.readingsOfEvent e)
      (resting (d.handle e) fun _ => none) := by
  cases e with
  | call c => exact timed_of_call (i := i) (fun _ => none) rfl c
  | draw =>
    have reads : Reads (resting d fun _ => none : System ι) (resting (d.handle .draw) fun _ => none)
        (some d.clocks.wall) := rfl
    exact Timed.refl.head (.skip d.clocks.wall) reads
  | advance ms =>
    simp only [Deployment.handle, Deployment.advance]
    cases d.clocks.manual.addMillis? ms with
    | none => exact .refl
    | some moved => exact .refl
  | setClock time => exact .refl
  | setWall ms => exact .refl
  | teardown =>
    have move := Move.teardown (s := (resting d fun _ => none : System ι)) (i := i) rfl
    rw [Store.Shared.take_teardown rfl] at move
    refine Timed.refl.deed (.teardown move) ⟨rfl, ?_⟩
    intro _ _ busy
    cases busy

theorem timed_of_events (i : ι) (d : Deployment) (es : List Deployment.Event) :
    Timed (resting d fun _ => none : System ι) (d.history es) (d.readings es)
      (resting (d.after es) fun _ => none) := by
  induction es generalizing d with
  | nil => exact .refl
  | cons e es ih => exact (timed_of_event i d e).trans (ih (d.handle e))

theorem course_of_waiting {sessions : ι → Option Session} (waiting : sessions i = some (.start call d.context)) :
    Course (resting d sessions) [.call d.now call (d.call call).1]
      (resting (d.call call).2 (update sessions i none)) := (timed_of_waiting waiting).course

theorem course_of_submit {sessions : ι → Option Session} (idle : sessions i = none) (call : Call) :
    Course (resting d sessions) [] (resting d (update sessions i (some (.start call d.context)))) :=
  (timed_of_submit idle call).course

theorem course_of_events (i : ι) (d : Deployment) (es : List Deployment.Event) :
    Course (resting d fun _ => none : System ι) (d.history es) (resting (d.after es) fun _ => none) :=
  (timed_of_events i d es).course

end Alone

end System

end ChatSpaces.Service
