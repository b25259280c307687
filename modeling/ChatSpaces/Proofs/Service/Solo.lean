import ChatSpaces.Proofs.Service.Clients

/-!
# One client among others

No call gets stuck halfway. A client whom nobody interrupts commits what the call comes to when it is taken at
once, and draws its identifiers at the same readings of the wall clock: the calls of a deployment, one after the
other, are one of the ways in which clients interleave.
-/

namespace ChatSpaces.Service

open Function (update)
open Store (Shared)

def Action.result? {α : Type} : Action α → Option (Except Refusal α)
  | .done a => some (.ok a)
  | .refuse r => some (.error r)
  | _ => none

namespace System

variable {ι : Type}

/-- What a call of a deployment commits as the call of a client. -/
def commit? (i : ι) (d : Deployment) (call : Call) (drawn : List Ident) : Option (Commit ι) :=
  match (d.call call).1 with
  | .ok a => if call.isRead then none else some (.call i d.context call drawn a)
  | .error _ => none

theorem commit?_of_isOk (i : ι) {d : Deployment} {call : Call} (writes : call.isRead = false)
    (answered : (d.call call).1.isOk = true) (drawn : List Ident) :
    ∃ a, commit? i d call drawn = some (.call i d.context call drawn a) := by
  unfold commit?
  cases result : (d.call call).1 with
  | error r =>
    rw [result] at answered
    cases answered
  | ok a => exact ⟨a, by simp [writes]⟩

variable [DecidableEq ι] {s u : System ι}

theorem Trace.head {cs : List (Commit ι)} (move : Move s none u) (rest : Trace u cs v) : Trace s cs v :=
  (Trace.refl.move move).trans rest

/-- What a step reads of the wall clock. Where it reads nothing, the generator is as it was and nobody has got an
identifier. -/
def Reads (s u : System ι) : Option Int → Prop
  | some wall => u.ids = (s.ids.next wall).2
  | none => u.ids = s.ids ∧
      ∀ i x, u.sessions i = some x → x.drawn = [] ∨ ∃ y, s.sessions i = some y ∧ y.drawn = x.drawn

section Readings

variable {i : ι} {now : Option Session} {store store' : Shared ι} {ids : Generator}
  {sessions : ι → Option Session}

theorem reads_of_update
    (own : ∀ x, now = some x → x.drawn = [] ∨ ∃ y, sessions i = some y ∧ y.drawn = x.drawn) :
    Reads ⟨store, ids, sessions⟩ ⟨store', ids, update sessions i now⟩ none := by
  refine ⟨rfl, fun j x goes => ?_⟩
  change update sessions i now j = some x at goes
  by_cases eq : j = i
  · subst eq
    rw [Function.update_self] at goes
    exact own x goes
  · rw [Function.update_of_ne eq] at goes
    exact .inr ⟨x, goes, rfl⟩

theorem Move.reads {c : Option (Commit ι)} (move : Move s c u) : ∃ read, Reads s u read := by
  cases move with
  | submit idle call c =>
    refine ⟨none, reads_of_update ?_⟩
    rintro _ ⟨⟩
    exact .inl rfl
  | enter busy next free =>
    refine ⟨none, reads_of_update ?_⟩
    rintro _ ⟨⟩
    exact .inr ⟨_, busy, rfl⟩
  | touch busy next copy =>
    refine ⟨none, reads_of_update ?_⟩
    rintro _ ⟨⟩
    exact .inr ⟨_, busy, rfl⟩
  | @draw i x wall rest busy next => exact ⟨some wall, rfl⟩
  | commit | drop | leave =>
    refine ⟨none, reads_of_update ?_⟩
    rintro _ ⟨⟩
  | skip wall => exact ⟨some wall, rfl⟩
  | teardown => exact ⟨none, rfl, fun i x busy => .inr ⟨x, busy, rfl⟩⟩

end Readings

inductive Quiet : System ι → List Int → System ι → Prop
  | refl {s : System ι} : Quiet s [] s
  | head {s u v : System ι} {read walls} (move : Move s none u) (reads : Reads s u read) (rest : Quiet u walls v) :
      Quiet s (read.toList ++ walls) v

theorem Quiet.trace {walls : List Int} (quiet : Quiet s walls u) : Trace s [] u := by
  induction quiet with
  | refl => exact .refl
  | head move _ _ ih => exact .head move ih

def withClient (s : System ι) (i : ι) (x : Session) (copy : Option Tables) (ids : Generator) : System ι :=
  ⟨⟨s.store.committed, s.store.holder, update s.store.copies i copy⟩, ids, update s.sessions i (some x)⟩

def withoutClient (s : System ι) (i : ι) (t : Tables) (ids : Generator) : System ι :=
  ⟨⟨t, none, update s.store.copies i none⟩, ids, update s.sessions i none⟩

def withHolder (s : System ι) (i : ι) : System ι := { s with store := { s.store with holder := some i } }

section Moves

variable {i : ι} {call : Call} {c : Context} {drawn : List Ident} {ids : Generator} {t : Tables}

theorem move_touch {β : Type} {f : Tables → β × Tables} {rest : β → Action Answer} :
    Move (s.withClient i ⟨call, c, drawn, .touch f rest⟩ (some t) ids) none
      (s.withClient i ⟨call, c, drawn, rest (f t).1⟩ (some (f t).2) ids) := by
  have move := Move.touch (s := s.withClient i ⟨call, c, drawn, .touch f rest⟩ (some t) ids)
    (Function.update_self ..) rfl (Function.update_self ..)
  simpa [withClient] using move

theorem move_draw {wall : Int} {rest : Ident → Action Answer} {copy : Option Tables} :
    Move (s.withClient i ⟨call, c, drawn, .draw wall rest⟩ copy ids) none
      (s.withClient i ⟨call, c, drawn ++ [(ids.next wall).1], rest (ids.next wall).1⟩ copy
        (ids.next wall).2) := by
  have move := Move.draw (s := s.withClient i ⟨call, c, drawn, .draw wall rest⟩ copy ids)
    (Function.update_self ..) rfl
  simpa [withClient] using move

theorem move_enter (free : s.store.holder = none) {rest : Action Answer} :
    Move (s.withClient i ⟨call, c, drawn, .enter rest⟩ none ids) none
      ((s.withHolder i).withClient i ⟨call, c, drawn, rest⟩ (some s.store.committed) ids) := by
  have move := Move.enter (s := s.withClient i ⟨call, c, drawn, .enter rest⟩ none ids)
    (Function.update_self ..) rfl free
  rw [Shared.take_begin (Function.update_self ..)] at move
  simpa [withClient, withHolder] using move

theorem move_commit {a : Answer} :
    Move ((s.withHolder i).withClient i ⟨call, c, drawn, .commit (.done a)⟩ (some t) ids)
      (some (.call i c call drawn a)) (s.withoutClient i t ids) := by
  have copy : ((s.withHolder i).withClient i ⟨call, c, drawn, .commit (.done a)⟩ (some t) ids).store.copies i =
      some t := Function.update_self ..
  have move := Move.commit (s := (s.withHolder i).withClient i ⟨call, c, drawn, .commit (.done a)⟩ (some t) ids)
    (Function.update_self ..) rfl (Option.ne_none_iff_exists'.mpr ⟨t, copy⟩)
  rw [Shared.take_commit copy] at move
  simpa [withClient, withHolder, withoutClient] using move

theorem move_drop {rest : Action Answer} :
    Move ((s.withHolder i).withClient i ⟨call, c, drawn, rest⟩ (some t) ids) none
      (s.withoutClient i s.store.committed ids) := by
  have copy : ((s.withHolder i).withClient i ⟨call, c, drawn, rest⟩ (some t) ids).store.copies i = some t :=
    Function.update_self ..
  have move := Move.drop (s := (s.withHolder i).withClient i ⟨call, c, drawn, rest⟩ (some t) ids)
    (Function.update_self ..) (Option.ne_none_iff_exists'.mpr ⟨t, copy⟩)
  rw [Shared.take_rollback copy] at move
  simpa [withClient, withHolder, withoutClient] using move

theorem move_leave (free : s.store.holder = none) {rest : Action Answer} :
    Move (s.withClient i ⟨call, c, drawn, rest⟩ none ids) none
      (s.withoutClient i s.store.committed ids) := by
  have move := Move.leave (s := s.withClient i ⟨call, c, drawn, rest⟩ none ids)
    (Function.update_self ..) (Function.update_self ..)
  simpa [withClient, withoutClient, free] using move

section Reading

variable {x y : Session} {copy copy' : Option Tables}

theorem reads_withClient (others : u.sessions = s.sessions) (same : y.drawn = x.drawn) :
    Reads (s.withClient i y copy ids) (u.withClient i x copy' ids) none := by
  have reads : Reads (s.withClient i y copy ids)
      ⟨(u.withClient i x copy' ids).store, ids, update (s.withClient i y copy ids).sessions i (some x)⟩ none := by
    refine reads_of_update ?_
    rintro _ ⟨⟩
    exact .inr ⟨y, Function.update_self .., same⟩
  simpa [withClient, others] using reads

theorem reads_withoutClient (others : u.sessions = s.sessions) :
    Reads (s.withClient i y copy ids) (u.withoutClient i t ids) none := by
  have reads : Reads (s.withClient i y copy ids)
      ⟨(u.withoutClient i t ids).store, ids, update (s.withClient i y copy ids).sessions i none⟩ none := by
    refine reads_of_update ?_
    rintro _ ⟨⟩
  simpa [withClient, withoutClient, others] using reads

end Reading

/-- How a call is left when only its commit and its answer, or its refusal, are to come. -/
def lastStep (call : Call) : EStateM.Result Refusal Work Answer → Action Answer
  | .ok a _ => if call.isRead then .done a else .commit (.done a)
  | .error r _ => .refuse r

def workLeft : EStateM.Result Refusal Work Answer → Work
  | .ok _ w | .error _ w => w

section Alone

variable {rest : Action Answer} {next : Ident → Action Answer} {wall : Int} {copy : Option Tables}

theorem reads_draw : Reads (s.withClient i ⟨call, c, drawn, .draw wall next⟩ copy ids)
    (s.withClient i ⟨call, c, drawn ++ [(ids.next wall).1], next (ids.next wall).1⟩ copy (ids.next wall).2)
    (some wall) := rfl

theorem quiet_inside (staged : rest.Staged .inside call.lastStage) (drawn : List Ident) (w : Work) :
    ∃ drawn', Quiet (s.withClient i ⟨call, c, drawn, rest⟩ (some w.tables) w.ids) (rest.readings w)
      (s.withClient i ⟨call, c, drawn', lastStep call (rest.run w)⟩ (some (workLeft (rest.run w)).tables)
        (workLeft (rest.run w)).ids) := by
  induction rest generalizing drawn w with
  | done a =>
    have reads : call.isRead = true := Call.inside_eq_lastStage_iff.mp staged
    have last : lastStep call (.ok a w) = .done a := if_pos reads
    refine ⟨drawn, ?_⟩
    rw [Action.run, last]
    exact .refl
  | refuse r => exact ⟨drawn, .refl⟩
  | enter rest ih => cases staged.1
  | touch f next ih =>
    obtain ⟨drawn', quiet⟩ := ih _ (staged.2 _) drawn { w with tables := (f w.tables).2 }
    exact ⟨drawn', .head move_touch (reads_withClient rfl rfl) quiet⟩
  | draw wall next ih =>
    obtain ⟨drawn', quiet⟩ := ih _ (staged.2 _) (drawn ++ [(w.ids.next wall).1])
      { w with ids := (w.ids.next wall).2 }
    exact ⟨drawn', .head move_draw reads_draw quiet⟩
  | commit rest _ =>
    obtain ⟨after, a, rfl⟩ := staged.2.eq_done
    have last : lastStep call (.ok a { w with committed := w.tables }) = .commit (.done a) := by
      simp [lastStep, Call.lastStage_eq_after_iff.mp after]
    refine ⟨drawn, ?_⟩
    rw [Action.run, Action.run, last]
    exact .refl

theorem quiet_outside (free : s.store.holder = none) (staged : rest.Staged .before call.lastStage)
    (drawn : List Ident) (w : Work) (same : s.store.committed = w.committed) :
    (∃ drawn' r v, rest.run w = .error r v ∧
      Quiet (s.withClient i ⟨call, c, drawn, rest⟩ none w.ids) (rest.readings w)
        (s.withClient i ⟨call, c, drawn', .refuse r⟩ none v.ids)) ∨
    ∃ drawn', Quiet (s.withClient i ⟨call, c, drawn, rest⟩ none w.ids) (rest.readings w)
      ((s.withHolder i).withClient i ⟨call, c, drawn', lastStep call (rest.run w)⟩
        (some (workLeft (rest.run w)).tables) (workLeft (rest.run w)).ids) := by
  induction rest generalizing drawn w with
  | done a => exact absurd staged call.before_ne_lastStage
  | refuse r => exact .inl ⟨drawn, r, w, rfl, .refl⟩
  | enter rest _ =>
    obtain ⟨drawn', quiet⟩ := quiet_inside (s := s.withHolder i) (i := i) (c := c) staged.2 drawn
      { w with tables := w.committed }
    have entered : Move (s.withClient i ⟨call, c, drawn, .enter rest⟩ none w.ids) none
        ((s.withHolder i).withClient i ⟨call, c, drawn, rest⟩ (some w.committed) w.ids) := same ▸ move_enter free
    exact .inr ⟨drawn', .head entered (reads_withClient rfl rfl) quiet⟩
  | touch f next ih => cases staged.1
  | draw wall next ih =>
    rcases ih _ (staged.2 _) (drawn ++ [(w.ids.next wall).1]) { w with ids := (w.ids.next wall).2 } same with
      ⟨drawn', r, v, run, quiet⟩ | ⟨drawn', quiet⟩
    · exact .inl ⟨drawn', r, v, run, .head move_draw reads_draw quiet⟩
    · exact .inr ⟨drawn', .head move_draw reads_draw quiet⟩
  | commit rest _ => cases staged.1

end Alone

end Moves

/-- The step by which the call of a client ends, what the call comes to, and what it commits. -/
inductive Last (i : ι) (call : Call) (c : Context) (s : System ι) :
    Except Refusal Answer → Option (Commit ι) → System ι → Prop
  | commit {l a u} (move : Move s (some (.call i c call l a)) u) :
      Last i call c s (.ok a) (some (.call i c call l a)) u
  | drop {drawn rest result u} (busy : s.sessions i = some ⟨call, c, drawn, rest⟩)
      (ended : rest.result? = some result) (move : Move s none u) (idle : u.sessions i = none) :
      Last i call c s result none u

/-- A client whom nobody interrupts comes to what the call comes to when it is taken at once. -/
theorem quiet_session {i : ι} (d : Deployment) (call : Call) (free : s.store.holder = none)
    (same : s.store.committed = d.tables) :
    ∃ drawn u, Quiet (s.withClient i (.start call d.context) none d.ids) (d.readingsOfCall call) u ∧
      Last i call d.context u (d.call call).1 (commit? i d call drawn)
        (s.withoutClient i (d.call call).2.tables (d.call call).2.ids) ∧
      Reads u (s.withoutClient i (d.call call).2.tables (d.call call).2.ids) none := by
  have idle (t : Tables) (ids : Generator) : (s.withoutClient i t ids).sessions i = none :=
    Function.update_self ..
  have staged := staged_perform call d.context
  have committed := Action.committed_of_run staged nofun d.work
  unfold commit? Deployment.readingsOfCall Deployment.call
  rcases quiet_outside (i := i) (c := d.context) free staged [] d.work same with
    ⟨drawn, r, v, run, quiet⟩ | ⟨drawn, quiet⟩
  · rw [run] at committed ⊢
    have left : v.committed = s.store.committed := Eq.trans committed same.symm
    simp only [Deployment.keep, left]
    exact ⟨drawn, _, quiet, .drop (Function.update_self ..) rfl (move_leave free) (idle ..), reads_withoutClient rfl⟩
  · cases run : (call.perform d.context).run d.work with
    | error r w =>
      rw [run] at committed quiet
      have left : w.committed = s.store.committed := Eq.trans committed same.symm
      simp only [Deployment.keep, left]
      exact ⟨drawn, _, quiet, .drop (Function.update_self ..) rfl move_drop (idle ..), reads_withoutClient rfl⟩
    | ok a w =>
      rw [run] at committed quiet
      simp only [Call.lastStage_eq_after_iff] at committed
      cases reads : call.isRead with
      | true =>
        have left : w.committed = s.store.committed := by simpa [reads, same, Deployment.work] using committed
        have last : lastStep call (.ok a w) = .done a := if_pos reads
        simp only [Deployment.keep, left, if_true]
        rw [last] at quiet
        exact ⟨drawn, _, quiet, .drop (Function.update_self ..) rfl move_drop (idle ..), reads_withoutClient rfl⟩
      | false =>
        have left : w.committed = w.tables := by simpa [reads] using committed
        have last : lastStep call (.ok a w) = .commit (.done a) := by simp [lastStep, reads]
        simp only [Deployment.keep, left, Bool.false_eq_true, if_false]
        rw [last] at quiet
        exact ⟨drawn, _, quiet, .commit move_commit, reads_withoutClient rfl⟩

theorem trace_of_session {i : ι} (d : Deployment) (call : Call) (free : s.store.holder = none)
    (same : s.store.committed = d.tables) :
    ∃ drawn, Trace (s.withClient i (.start call d.context) none d.ids) (commit? i d call drawn).toList
      (s.withoutClient i (d.call call).2.tables (d.call call).2.ids) := by
  obtain ⟨drawn, u, quiet, last, -⟩ := quiet_session (i := i) d call free same
  refine ⟨drawn, ?_⟩
  generalize commit? i d call drawn = committed at last ⊢
  generalize (d.call call).1 = result at last
  cases last with
  | commit move => exact quiet.trace.move move
  | drop _ _ move _ => exact quiet.trace.move move

/-- The tables and the generator of a deployment, with nobody inside a unit of work. -/
def resting (d : Deployment) (sessions : ι → Option Session) : System ι :=
  ⟨⟨d.tables, none, fun _ => none⟩, d.ids, sessions⟩

omit [DecidableEq ι] in
theorem committed_resting (d : Deployment) (sessions : ι → Option Session) :
    (resting d sessions).store.committed = d.tables := rfl

variable {i : ι} {d : Deployment} {sessions : ι → Option Session} {call : Call}

theorem trace_of_waiting (waiting : sessions i = some (.start call d.context)) :
    ∃ drawn, Trace (resting d sessions) (commit? i d call drawn).toList
      (resting (d.call call).2 (update sessions i none)) := by
  obtain ⟨drawn, trace⟩ := trace_of_session (s := resting d sessions) (i := i) d call rfl rfl
  have here : (resting d sessions).withClient i (.start call d.context) none d.ids = resting d sessions := by
    simp [resting, withClient, ← waiting]
  have there : (resting d sessions).withoutClient i (d.call call).2.tables (d.call call).2.ids =
      resting (d.call call).2 (update sessions i none) := by
    simp [resting, withoutClient]
  rw [here, there] at trace
  exact ⟨drawn, trace⟩

theorem trace_of_call (sessions : ι → Option Session) (idle : sessions i = none) (call : Call) :
    ∃ drawn, Trace (resting d sessions) (commit? i d call drawn).toList (resting (d.call call).2 sessions) := by
  have submitted := Move.submit (s := resting d sessions) idle call d.context
  have waiting : update sessions i (some (.start call d.context)) i = some (.start call d.context) :=
    Function.update_self ..
  obtain ⟨drawn, trace⟩ := trace_of_waiting waiting
  rw [Function.update_idem, ← idle, Function.update_eq_self] at trace
  exact ⟨drawn, .head submitted trace⟩

theorem trace_of_answered (sessions : ι → Option Session) (idle : sessions i = none) {call : Call}
    (writes : call.isRead = false) (answered : (d.call call).1.isOk = true) :
    ∃ drawn a, Trace (resting d sessions) [.call i d.context call drawn a]
      (resting (d.call call).2 sessions) := by
  obtain ⟨drawn, trace⟩ := trace_of_call sessions idle call
  obtain ⟨a, once⟩ := commit?_of_isOk i writes answered drawn
  rw [once] at trace
  exact ⟨drawn, a, trace⟩

theorem trace_of_event (i : ι) (d : Deployment) (e : Deployment.Event) :
    ∃ cs, Trace (resting d fun _ => none : System ι) cs (resting (d.handle e) fun _ => none) := by
  cases e with
  | call c =>
    obtain ⟨drawn, trace⟩ := trace_of_call (i := i) (d := d) (fun _ => none) rfl c
    exact ⟨_, trace⟩
  | draw => exact ⟨_, .move .refl (.skip d.clocks.wall)⟩
  | advance ms =>
    simp only [Deployment.handle, Deployment.advance]
    cases d.clocks.manual.addMillis? ms <;> exact ⟨_, .refl⟩
  | setClock time => exact ⟨_, .refl⟩
  | setWall ms => exact ⟨_, .refl⟩
  | teardown =>
    have move := Move.teardown (s := (resting d fun _ => none : System ι)) (i := i) rfl
    rw [Shared.take_teardown rfl] at move
    exact ⟨_, .move .refl move⟩

/-- Everything that can happen to a deployment can happen among clients. -/
theorem reachable_resting (i : ι) (h : d.Reachable) : (resting d fun _ => none : System ι).Reachable := by
  obtain ⟨w, clocks, es, rfl⟩ := h
  have from_start : ∃ cs, Trace (start w.ids : System ι) cs
      (resting (Deployment.start w clocks) fun _ => none) := ⟨_, .refl⟩
  generalize Deployment.start w clocks = d at from_start
  refine ⟨w.ids, ?_⟩
  induction es generalizing d with
  | nil => exact from_start
  | cons e es ih =>
    obtain ⟨cs, before⟩ := from_start
    obtain ⟨ds, trace⟩ := trace_of_event i d e
    exact ih (d.handle e) ⟨_, before.trans trace⟩

end System

end ChatSpaces.Service
