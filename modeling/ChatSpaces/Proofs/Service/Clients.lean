import ChatSpaces.Proofs.Service.Run
import ChatSpaces.Proofs.Store.Shared

/-!
# Clients of the services

Any number of clients call the services over one store and one generator. A call is taken step by step, and
other clients may act between any two of its steps; it waits for the lock where its unit of work begins. The
commits of a run are what its tables come from: each has the effect of its call, taken at once, on the tables
that were committed before it.
-/

namespace ChatSpaces.Service

open Store (Shared)

structure Session where
  call : Call
  context : Context
  drawn : List Ident
  rest : Action Answer

def Session.start (call : Call) (c : Context) : Session := ⟨call, c, [], call.perform c⟩

structure System (ι : Type) where
  store : Shared ι
  ids : Generator
  sessions : ι → Option Session

inductive Commit (ι : Type) where
  | call (client : ι) (context : Context) (call : Call) (drawn : List Ident) (answer : Answer)
  | teardown (client : ι)

namespace System

open Function (update)

variable {ι : Type}

def start (ids : Generator) : System ι := ⟨.empty, ids, fun _ => none⟩

variable [DecidableEq ι]

/-- One step of one client, and what it commits. The clocks and the policy of a call may be any. -/
inductive Move (s : System ι) : Option (Commit ι) → System ι → Prop
  | submit {i} (idle : s.sessions i = none) (call : Call) (c : Context) :
      Move s none { s with sessions := update s.sessions i (some (.start call c)) }
  | enter {i x rest} (busy : s.sessions i = some x) (next : x.rest = .enter rest)
      (free : s.store.Enabled i .begin) :
      Move s none { s with
        store := (s.store.take i .begin).2
        sessions := update s.sessions i (some { x with rest := rest }) }
  | touch {i x t} {β : Type} {f : Tables → β × Tables} {rest} (busy : s.sessions i = some x)
      (next : x.rest = .touch f rest) (copy : s.store.copies i = some t) :
      Move s none { s with
        store := { s.store with copies := update s.store.copies i (some (f t).2) }
        sessions := update s.sessions i (some { x with rest := rest (f t).1 }) }
  | draw {i x wall rest} (busy : s.sessions i = some x) (next : x.rest = .draw wall rest) :
      Move s none { s with
        ids := (s.ids.next wall).2
        sessions := update s.sessions i (some { x with
          drawn := x.drawn ++ [(s.ids.next wall).1]
          rest := rest (s.ids.next wall).1 }) }
  | commit {i x a} (busy : s.sessions i = some x) (next : x.rest = .commit (.done a))
      (inside : s.store.Enabled i .commit) :
      Move s (some (.call i x.context x.call x.drawn a))
        { s with store := (s.store.take i .commit).2, sessions := update s.sessions i none }
  /-- A unit of work is dropped that only looks, that is refused, or whose client gives up. -/
  | drop {i x} (busy : s.sessions i = some x) (inside : s.store.Enabled i .rollback) :
      Move s none { s with store := (s.store.take i .rollback).2, sessions := update s.sessions i none }
  | leave {i x} (busy : s.sessions i = some x) (outside : s.store.copies i = none) :
      Move s none { s with sessions := update s.sessions i none }
  | skip (wall : Int) : Move s none { s with ids := (s.ids.next wall).2 }
  | teardown {i} (free : s.store.Enabled i .teardown) :
      Move s (some (.teardown i)) { s with store := (s.store.take i .teardown).2 }

inductive Trace (s : System ι) : List (Commit ι) → System ι → Prop
  | refl : Trace s [] s
  | move {cs u o v} : Trace s cs u → Move u o v → Trace s (cs ++ o.toList) v

theorem Trace.trans {s u v : System ι} {cs ds : List (Commit ι)} (first : Trace s cs u) (second : Trace u ds v) :
    Trace s (cs ++ ds) v := by
  induction second with
  | refl =>
    rw [List.append_nil]
    exact first
  | move _ move ih =>
    rw [← List.append_assoc]
    exact ih.move move

theorem Trace.split {s v : System ι} {cs ds es : List (Commit ι)} {x : Commit ι} (trace : Trace s es v)
    (split : es = cs ++ x :: ds) : ∃ a b, Trace s cs a ∧ Move a (some x) b ∧ Trace b ds v := by
  induction trace generalizing ds with
  | refl => simp at split
  | @move es u o v before move ih =>
    cases o with
    | none =>
      obtain ⟨a, b, first, commit, second⟩ := ih (by simpa using split)
      exact ⟨a, b, first, commit, by simpa using second.move move⟩
    | some y =>
      rcases ds.eq_nil_or_concat with rfl | ⟨rest, last, rfl⟩
      · obtain ⟨rfl, same⟩ := List.append_inj' split rfl
        cases same
        exact ⟨u, v, before, move, .refl⟩
      · rw [List.concat_eq_append, ← List.cons_append, ← List.append_assoc] at split
        obtain ⟨earlier, same⟩ := List.append_inj' split rfl
        cases same
        obtain ⟨a, b, first, commit, second⟩ := ih earlier
        exact ⟨a, b, first, commit, by simpa using second.move move⟩

def Reachable (s : System ι) : Prop := ∃ ids cs, Trace (start ids) cs s

end System

/-- What is left of a call completes what it has done: before its unit of work has begun on whatever tables,
then from the committed tables by way of its working copy. -/
def Session.Completes (x : Session) (committed : Tables) : Option Tables → Prop
  | none => x.rest.Staged .before x.call.lastStage ∧
      ∀ l t o u, x.rest.Yields l t o u → (x.call.perform x.context).Yields (x.drawn ++ l) t o u
  | some t => x.rest.Staged .inside x.call.lastStage ∧
      ∀ l o u, x.rest.Yields l t o u → (x.call.perform x.context).Yields (x.drawn ++ l) committed o u

namespace Session.Completes

variable {call : Call} {c : Context} {drawn : List Ident} {committed t : Tables} {copy : Option Tables}

theorem start (call : Call) (c : Context) (committed : Tables) : (start call c).Completes committed none :=
  ⟨staged_perform call c, fun _ _ _ _ yields => yields⟩

theorem enter {rest : Action Answer} (h : Completes ⟨call, c, drawn, .enter rest⟩ committed none) :
    Completes ⟨call, c, drawn, rest⟩ committed (some committed) :=
  ⟨h.1.2, fun l o u yields => h.2 l committed o u yields⟩

theorem touch {β : Type} {f : Tables → β × Tables} {rest : β → Action Answer}
    (h : Completes ⟨call, c, drawn, .touch f rest⟩ committed (some t)) :
    Completes ⟨call, c, drawn, rest (f t).1⟩ committed (some (f t).2) :=
  ⟨h.1.2 _, fun l o u yields => h.2 l o u yields⟩

theorem draw {wall : Int} {rest : Ident → Action Answer} (i : Ident)
    (h : Completes ⟨call, c, drawn, .draw wall rest⟩ committed copy) :
    Completes ⟨call, c, drawn ++ [i], rest i⟩ committed copy := by
  cases copy with
  | none =>
    refine ⟨h.1.2 i, fun l t o u yields => ?_⟩
    rw [List.append_assoc]
    exact h.2 (i :: l) t o u ⟨i, l, rfl, yields⟩
  | some t =>
    refine ⟨h.1.2 i, fun l o u yields => ?_⟩
    rw [List.append_assoc]
    exact h.2 (i :: l) o u ⟨i, l, rfl, yields⟩

end Session.Completes

namespace System

open Function (update)

variable {ι : Type}

/-- Whoever has a working copy holds the lock and has a call under way, and every call under way completes
what it has done. -/
structure Sound (s : System ι) : Prop where
  locked : s.store.Locked
  idle : ∀ i, s.sessions i = none → s.store.copies i = none
  completes : ∀ i x, s.sessions i = some x → x.Completes s.store.committed (s.store.copies i)

theorem Sound.start (ids : Generator) : (start ids : System ι).Sound where
  locked := .empty
  idle _ _ := rfl
  completes _ _ busy := nomatch busy

variable {s u : System ι}

namespace Sound

theorem of_each (h : s.Sound) {store : Shared ι} {ids : Generator} {sessions : ι → Option Session}
    (locked : store.Locked)
    (each : ∀ j,
      (sessions j = s.sessions j ∧ store.copies j = s.store.copies j ∧
        (s.store.copies j = none ∨ store.committed = s.store.committed)) ∨
      (sessions j = none ∧ store.copies j = none) ∨
      ∃ x, sessions j = some x ∧ x.Completes store.committed (store.copies j)) :
    Sound ⟨store, ids, sessions⟩ where
  locked := locked
  idle j idle := by
    change sessions j = none at idle
    rcases each j with ⟨alone, copy, -⟩ | ⟨-, copy⟩ | ⟨x, busy, -⟩
    · exact copy.trans (h.idle j (alone.symm.trans idle))
    · exact copy
    · rw [busy] at idle
      cases idle
  completes j x busy := by
    change sessions j = some x at busy
    change x.Completes store.committed (store.copies j)
    rcases each j with ⟨alone, copy, tables⟩ | ⟨ended, -⟩ | ⟨y, goes, completes⟩
    · have completes := h.completes j x (alone.symm.trans busy)
      rw [copy]
      rcases tables with none | same
      · rw [none] at completes ⊢
        exact completes
      · rw [same]
        exact completes
    · rw [ended] at busy
      cases busy
    · rw [goes] at busy
      cases busy
      exact completes

/-- Whoever stands before the commit of a unit of work has only the answer of a writing call left. -/
theorem answer_of_commit (h : s.Sound) {i : ι} {x : Session} (busy : s.sessions i = some x)
    {rest : Action Answer} (next : x.rest = .commit rest) (inside : s.store.Enabled i .commit) :
    x.call.isRead = false ∧ ∃ a, rest = .done a := by
  obtain ⟨t, copy⟩ := Option.ne_none_iff_exists'.mp inside
  have completes := h.completes i x busy
  obtain ⟨call, c, drawn, _⟩ := x
  cases next
  rw [copy] at completes
  exact ⟨Call.lastStage_eq_after_iff.mp completes.1.2.eq_done.1, completes.1.2.eq_done.2⟩

/-- Only a call that looks is answered without a commit. -/
theorem isRead_of_done (h : s.Sound) {i : ι} {x : Session} (busy : s.sessions i = some x) {a : Answer}
    (answered : x.rest = .done a) : x.call.isRead = true := by
  have completes := h.completes i x busy
  obtain ⟨call, c, drawn, _⟩ := x
  cases answered
  cases copy : s.store.copies i with
  | none =>
    rw [copy] at completes
    exact absurd completes.1 call.before_ne_lastStage
  | some t =>
    rw [copy] at completes
    exact Call.inside_eq_lastStage_iff.mp completes.1

variable [DecidableEq ι]

theorem move (h : s.Sound) {o : Option (Commit ι)} (move : Move s o u) : u.Sound := by
  cases move with
  | @submit i idle call c =>
    refine h.of_each h.locked fun j => ?_
    by_cases eq : j = i
    · subst eq
      rw [h.idle j idle]
      exact .inr (.inr ⟨_, Function.update_self .., .start call c _⟩)
    · exact .inl ⟨Function.update_of_ne eq .., rfl, .inr rfl⟩
  | @enter i x rest busy next free =>
    have copy := h.locked.copies_of_free free i
    have completes := h.completes i x busy
    obtain ⟨call, c, drawn, _⟩ := x
    cases next
    rw [copy] at completes
    rw [Shared.take_begin copy]
    refine h.of_each (h.locked.take_lock free i _ _) fun j => ?_
    by_cases eq : j = i
    · subst eq
      refine .inr (.inr ⟨_, Function.update_self .., ?_⟩)
      simp only [Function.update_self]
      exact completes.enter
    · exact .inl ⟨Function.update_of_ne eq .., Function.update_of_ne eq .., .inr rfl⟩
  | @touch i x t β f rest busy next copy =>
    have completes := h.completes i x busy
    obtain ⟨call, c, drawn, _⟩ := x
    cases next
    rw [copy] at completes
    refine h.of_each (h.locked.keep_lock (by simp [copy]) _ _) fun j => ?_
    by_cases eq : j = i
    · subst eq
      refine .inr (.inr ⟨_, Function.update_self .., ?_⟩)
      simp only [Function.update_self]
      exact completes.touch
    · exact .inl ⟨Function.update_of_ne eq .., Function.update_of_ne eq .., .inr rfl⟩
  | @draw i x wall rest busy next =>
    have completes := h.completes i x busy
    obtain ⟨call, c, drawn, _⟩ := x
    cases next
    refine h.of_each h.locked fun j => ?_
    by_cases eq : j = i
    · subst eq
      exact .inr (.inr ⟨_, Function.update_self .., completes.draw _⟩)
    · exact .inl ⟨Function.update_of_ne eq .., rfl, .inr rfl⟩
  | @commit i x a busy next inside =>
    obtain ⟨t, copy⟩ := Option.ne_none_iff_exists'.mp inside
    rw [Shared.take_commit copy]
    -- Nobody else is inside, so no other working copy comes from the tables that were committed before.
    refine h.of_each (h.locked.release_lock inside _) fun j => ?_
    by_cases eq : j = i
    · subst eq
      exact .inr (.inl ⟨Function.update_self .., Function.update_self ..⟩)
    · exact .inl ⟨Function.update_of_ne eq .., Function.update_of_ne eq ..,
        .inl (h.locked.copies_of_other inside eq)⟩
  | @drop i x busy inside =>
    obtain ⟨t, copy⟩ := Option.ne_none_iff_exists'.mp inside
    rw [Shared.take_rollback copy]
    refine h.of_each (h.locked.release_lock inside _) fun j => ?_
    by_cases eq : j = i
    · subst eq
      exact .inr (.inl ⟨Function.update_self .., Function.update_self ..⟩)
    · exact .inl ⟨Function.update_of_ne eq .., Function.update_of_ne eq .., .inr rfl⟩
  | @leave i x busy outside =>
    refine h.of_each h.locked fun j => ?_
    by_cases eq : j = i
    · subst eq
      exact .inr (.inl ⟨Function.update_self .., outside⟩)
    · exact .inl ⟨Function.update_of_ne eq .., rfl, .inr rfl⟩
  | skip wall => exact h.of_each h.locked fun j => .inl ⟨rfl, rfl, .inr rfl⟩
  | @teardown i free =>
    rw [Shared.take_teardown (h.locked.copies_of_free free i)]
    exact h.of_each h.locked fun j => .inl ⟨rfl, rfl, .inl (h.locked.copies_of_free free j)⟩

theorem trace (h : s.Sound) {cs : List (Commit ι)} (trace : Trace s cs u) : u.Sound := by
  induction trace with
  | refl => exact h
  | move _ move ih => exact ih.move move

end Sound

section Steps

variable [DecidableEq ι]

theorem Reachable.sound (h : s.Reachable) : s.Sound := by
  obtain ⟨ids, cs, trace⟩ := h
  exact (Sound.start ids).trace trace

theorem Reachable.trace (h : s.Reachable) {cs : List (Commit ι)} (trace : Trace s cs u) : u.Reachable := by
  obtain ⟨ids, before, start⟩ := h
  exact ⟨ids, before ++ cs, start.trans trace⟩

theorem effect_of_commit (h : s.Sound) {i : ι} {c : Context} {call : Call} {l : List Ident} {a : Answer}
    (move : Move s (some (.call i c call l a)) u) :
    Effect c s.store.committed call l a u.store.committed := by
  cases move with
  | @commit _ x _ busy next inside =>
    obtain ⟨t, copy⟩ := Option.ne_none_iff_exists'.mp inside
    have completes := h.completes i x busy
    obtain ⟨call, c, drawn, _⟩ := x
    cases next
    rw [copy] at completes
    rw [Shared.take_commit copy]
    have yields := completes.2 [] (.ok a) t ⟨rfl, rfl, rfl⟩
    rw [List.append_nil] at yields
    exact effect_of_yields yields

theorem committed_of_teardown (h : s.Sound) {i : ι} (move : Move s (some (.teardown i)) u) :
    u.store.committed = ∅ := by
  cases move with
  | teardown free => rw [Shared.take_teardown (h.locked.copies_of_free free i)]

theorem committed_of_quiet (h : s.Sound) (move : Move s none u) : u.store.committed = s.store.committed := by
  cases move with
  | submit idle call c => rfl
  | @enter i x rest busy next free => rw [Shared.take_begin (h.locked.copies_of_free free i)]
  | touch busy next copy => rfl
  | draw busy next => rfl
  | drop busy inside =>
    obtain ⟨t, copy⟩ := Option.ne_none_iff_exists'.mp inside
    rw [Shared.take_rollback copy]
  | leave busy outside => rfl
  | skip wall => rfl

theorem committed_of_quiet_trace (h : s.Sound) {cs : List (Commit ι)} (trace : Trace s cs u) (quiet : cs = []) :
    u.store.committed = s.store.committed := by
  induction trace with
  | refl => rfl
  | @move cs u o v before move ih =>
    obtain ⟨earlier, none⟩ := List.append_eq_nil_iff.mp quiet
    cases o with
    | none => rw [committed_of_quiet (h.trace before) move, ih earlier]
    | some x => cases none

theorem Sound.served_move (h : s.Sound) (served : Served s.store.committed) {o : Option (Commit ι)}
    (move : Move s o u) : Served u.store.committed := by
  rcases o with _ | ⟨i, c, call, l, a⟩ | i
  · rw [committed_of_quiet h move]
    exact served
  · exact .answer served (effect_of_commit h move)
  · rw [committed_of_teardown h move]
    exact .empty

theorem Sound.served_trace (h : s.Sound) (served : Served s.store.committed) {cs : List (Commit ι)}
    (trace : Trace s cs u) : Served u.store.committed := by
  induction trace with
  | refl => exact served
  | move before move ih => exact (h.trace before).served_move ih move

/-- The committed tables are what answered calls, taken at once and one after the other, make of empty ones. -/
theorem Reachable.served (h : s.Reachable) : Served s.store.committed := by
  obtain ⟨ids, cs, trace⟩ := h
  exact (Sound.start ids).served_trace .empty trace

end Steps

end System

end ChatSpaces.Service
