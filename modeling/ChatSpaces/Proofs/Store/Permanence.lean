import ChatSpaces.Proofs.Store.Shared
import ChatSpaces.Proofs.Tables.Growth
import Mathlib.Data.List.Induction

/-!
# Permanence

Between two states of a run, with no teardown in between, rows are never lost. This holds of the committed tables,
of what a client works on in comparison with what was committed, and of what it works on in comparison with what
it worked on before, as long as it rolls nothing back.
-/

namespace ChatSpaces.Store

open Tables (Operation Persists)

theorem persists_outcome (t : Tables) (o : Operation) : t.Persists (outcome t o).2 := by
  unfold outcome
  cases result : o.apply t with
  | error f => exact .refl t
  | ok done => exact .change (Tables.change_of_apply result)

namespace Shared

variable {ι : Type}

/-- The tables that a client has before it: its own copy while its unit is open, otherwise the committed ones. -/
def seen (s : Shared ι) (i : ι) : Tables := (s.copies i).getD s.committed

/-- Nobody works on less than what is committed. -/
def Ahead (s : Shared ι) : Prop := ∀ i, s.committed.Persists (s.seen i)

variable {s u : Shared ι} {i : ι} {a : Step}

theorem seen_of_copy {t : Tables} (copy : s.copies i = some t) : s.seen i = t := by
  rw [seen, copy, Option.getD_some]

theorem seen_of_none (none : s.copies i = none) : s.seen i = s.committed := by
  rw [seen, none, Option.getD_none]

theorem Ahead.empty : (Shared.empty : Shared ι).Ahead := fun _ => .refl _

variable [DecidableEq ι]

theorem seen_update (s : Shared ι) (c : Tables) (holder : Option ι) (i j : ι) (copy : Option Tables) :
    (⟨c, holder, Function.update s.copies i copy⟩ : Shared ι).seen j =
      if j = i then copy.getD c else (s.copies j).getD c := by
  unfold seen
  dsimp only
  by_cases same : j = i
  · rw [if_pos same, same, Function.update_self]
  · rw [if_neg same, Function.update_of_ne same]

theorem persists_committed_take (ahead : s.Ahead) (locked : s.Locked) (enabled : s.Enabled i a)
    (lasts : a ≠ .teardown) : s.committed.Persists (s.take i a).2.committed := by
  cases a with
  | begin =>
    rw [take_begin (locked.copies_of_free enabled i)]
    exact .refl _
  | commit =>
    obtain ⟨t, copy⟩ := Option.ne_none_iff_exists'.mp enabled
    rw [take_commit copy]
    exact seen_of_copy copy ▸ ahead i
  | rollback =>
    obtain ⟨t, copy⟩ := Option.ne_none_iff_exists'.mp enabled
    rw [take_rollback copy]
    exact .refl _
  | provision =>
    rw [take_provision]
    exact .refl _
  | teardown => exact absurd rfl lasts
  | perform o =>
    obtain ⟨t, copy⟩ := Option.ne_none_iff_exists'.mp enabled
    rw [take_perform copy]
    exact .refl _

/-- A step takes no row from what a client has before it, unless this client rolls back. -/
theorem persists_seen_take (ahead : s.Ahead) (locked : s.Locked) (enabled : s.Enabled i a)
    (lasts : a ≠ .teardown) {j : ι} (keeps : i = j → a ≠ .rollback) :
    (s.seen j).Persists ((s.take i a).2.seen j) := by
  cases a with
  | begin =>
    have free := locked.copies_of_free enabled
    rw [take_begin (free i), seen_update, free j, Option.getD_some, Option.getD_none, ite_self,
      seen_of_none (free j)]
    exact .refl _
  | commit =>
    obtain ⟨t, copy⟩ := Option.ne_none_iff_exists'.mp enabled
    rw [take_commit copy, seen_update]
    by_cases same : j = i
    · rw [if_pos same, same, seen_of_copy copy]
      exact .refl _
    · have free := locked.copies_of_other enabled same
      rw [if_neg same, free, seen_of_none free]
      exact seen_of_copy copy ▸ ahead i
  | rollback =>
    obtain ⟨t, copy⟩ := Option.ne_none_iff_exists'.mp enabled
    rw [take_rollback copy, seen_update]
    by_cases same : j = i
    · exact absurd rfl (keeps same.symm)
    · rw [if_neg same]
      exact .refl _
  | provision =>
    rw [take_provision]
    exact .refl _
  | teardown => exact absurd rfl lasts
  | perform o =>
    obtain ⟨t, copy⟩ := Option.ne_none_iff_exists'.mp enabled
    rw [take_perform copy, seen_update]
    by_cases same : j = i
    · rw [if_pos same, same, seen_of_copy copy]
      exact persists_outcome t o
    · rw [if_neg same]
      exact .refl _

theorem Ahead.take (ahead : s.Ahead) (locked : s.Locked) (enabled : s.Enabled i a) : (s.take i a).2.Ahead := by
  intro j
  cases a with
  | teardown =>
    rw [take_teardown (locked.copies_of_free enabled i)]
    exact .of_empty _
  | rollback =>
    obtain ⟨t, copy⟩ := Option.ne_none_iff_exists'.mp enabled
    rw [take_rollback copy, seen_of_none (locked.copies_of_released enabled j)]
    exact .refl _
  | commit =>
    obtain ⟨t, copy⟩ := Option.ne_none_iff_exists'.mp enabled
    rw [take_commit copy, seen_of_none (locked.copies_of_released enabled j)]
    exact .refl _
  | begin =>
    have free := locked.copies_of_free enabled
    rw [take_begin (free i), seen_update, free j, Option.getD_some, Option.getD_none, ite_self]
    exact .refl _
  | provision =>
    rw [take_provision]
    exact ahead j
  | perform o =>
    obtain ⟨t, copy⟩ := Option.ne_none_iff_exists'.mp enabled
    have later := persists_seen_take ahead locked enabled Step.noConfusion (j := j) fun _ => Step.noConfusion
    rw [take_perform copy] at later ⊢
    exact (ahead j).trans later

namespace Run

variable {es fs : List (Event ι)}

theorem ahead (run : Run es s) : s.Ahead := by
  induction run with
  | nil => exact .empty
  | snoc run enabled ih => exact ih.take run.locked enabled

theorem last {e : Event ι} (run : Run (es ++ [e]) s) :
    ∃ v, Run es v ∧ v.Enabled e.client e.step ∧ s = (v.take e.client e.step).2 := by
  generalize whole : es ++ [e] = all at run
  cases run with
  | nil => simp at whole
  | @snoc es' v i a before enabled =>
    obtain ⟨rfl, rfl⟩ := List.append_singleton_inj.mp whole
    exact ⟨v, before, enabled, rfl⟩

theorem unique (run : Run es s) (other : Run es u) : s = u := by
  induction run generalizing u with
  | nil =>
    generalize none : ([] : List (Event ι)) = es at other
    cases other with
    | nil => rfl
    | snoc => simp at none
  | snoc _ _ ih =>
    obtain ⟨v, before, -, rfl⟩ := other.last
    rw [ih before]

theorem onward {P : List (Event ι) → Shared ι → Prop} (run : Run es s) (here : P [] s)
    (next : ∀ {fs v e}, Run (es ++ fs) v → v.Enabled e.client e.step → P fs v →
      P (fs ++ [e]) (v.take e.client e.step).2)
    (later : Run (es ++ fs) u) : P fs u := by
  induction fs using List.reverseRecOn generalizing u with
  | nil =>
    rw [List.append_nil] at later
    exact run.unique later ▸ here
  | append_singleton fs e ih =>
    rw [← List.append_assoc] at later
    obtain ⟨v, before, enabled, rfl⟩ := later.last
    exact next before enabled (ih before)

end Run

/-- From one state of a run to a later one, with no teardown in between: every row of a user or of media is there
as it was; every space, channel and message is there with what it was given when it was made, and if it was
deleted it is unchanged. This holds of the committed tables, of what any client has before it later in comparison with
what was committed, and of what a client has before it at both times if it did not roll back. -/
theorem rows_are_permanent {es fs : List (Event ι)} {s u : Shared ι} (run : Run es s) (later : Run (es ++ fs) u)
    (lasting : ∀ e ∈ fs, e.step ≠ .teardown) :
    s.committed.Persists u.committed ∧ ∀ i, s.committed.Persists (u.seen i) ∧
      ((∀ e ∈ fs, e.client = i → e.step ≠ .rollback) → (s.seen i).Persists (u.seen i)) := by
  have committed : s.committed.Persists u.committed := by
    refine run.onward (P := fun fs u => (∀ e ∈ fs, e.step ≠ .teardown) → s.committed.Persists u.committed)
      (fun _ => .refl _) ?_ later lasting
    intro fs v e before enabled ih lasting
    have earlier := ih fun f mem => lasting f (List.mem_append_left _ mem)
    exact earlier.trans
      (persists_committed_take before.ahead before.locked enabled (lasting e (by simp)))
  refine ⟨committed, fun i => ⟨committed.trans (later.ahead i), fun keeps => ?_⟩⟩
  refine run.onward
    (P := fun fs u => (∀ e ∈ fs, e.step ≠ .teardown ∧ (e.client = i → e.step ≠ .rollback)) →
      (s.seen i).Persists (u.seen i))
    (fun _ => .refl _) ?_ later fun e mem => ⟨lasting e mem, keeps e mem⟩
  intro fs v e before enabled ih lasting
  have earlier := ih fun f mem => lasting f (List.mem_append_left _ mem)
  obtain ⟨lasts, keeps⟩ := lasting e (by simp)
  exact earlier.trans (persists_seen_take before.ahead before.locked enabled lasts keeps)

/-- Client 0 marks a message deleted and commits. Client 1 then edits it, deletes it again and inserts it anew, and
marks its space deleted, which it then renames: message and space stay as they were when they were marked. -/
theorem rows_are_permanent_deleted :
    let home : Space := ⟨⟨2⟩, "home", "", ⟨1⟩, false, .ofMillis 0, .ofMillis 0⟩
    let hello : Message := ⟨⟨4⟩, ⟨3⟩, ⟨1⟩, "hello", false, .ofMillis 0, .ofMillis 0⟩
    ∃ (es fs : List (Event Nat)) (s u : Shared Nat), Run es s ∧ Run (es ++ fs) u ∧
      (∀ e ∈ fs, e.step ≠ .teardown) ∧ s.committed.Persists u.committed ∧ (s.seen 1).Persists (u.seen 1) ∧
      s.committed.messages.get? ⟨4⟩ = some { hello with deleted := true, updatedAt := .ofMillis 1 } ∧
      u.committed.messages.get? ⟨4⟩ = some { hello with deleted := true, updatedAt := .ofMillis 1 } ∧
      u.committed.spaces.get? ⟨2⟩ = some { home with deleted := true, updatedAt := .ofMillis 2 } := by
  intro home hello
  have first := (Run.nil : Run ([] : List (Event Nat)) _)
    |>.snoc (i := 0) (a := .begin) rfl
    |>.snoc (i := 0) (a := .perform (.insertUser ⟨⟨1⟩, "ann", "", false, .ofMillis 0⟩)) (by decide)
    |>.snoc (i := 0) (a := .perform (.insertSpace home)) (by decide)
    |>.snoc (i := 0) (a := .perform (.insertChannel ⟨⟨3⟩, ⟨2⟩, "news", false, .ofMillis 0, .ofMillis 0⟩)) (by decide)
    |>.snoc (i := 0) (a := .perform (.insertMessage hello)) (by decide)
    |>.snoc (i := 0) (a := .perform (.deleteMessage ⟨4⟩ (.ofMillis 1))) (by decide)
    |>.snoc (i := 0) (a := .commit) (by decide)
  have second := first
    |>.snoc (i := 1) (a := .begin) (by decide)
    |>.snoc (i := 1) (a := .perform (.updateMessage { hello with body := "bye" })) (by decide)
    |>.snoc (i := 1) (a := .perform (.deleteMessage ⟨4⟩ (.ofMillis 2))) (by decide)
    |>.snoc (i := 1) (a := .perform (.insertMessage hello)) (by decide)
    |>.snoc (i := 1) (a := .perform (.deleteSpace ⟨2⟩ (.ofMillis 2))) (by decide)
    |>.snoc (i := 1) (a := .perform (.updateSpace { home with name := "away" })) (by decide)
    |>.snoc (i := 1) (a := .commit) (by decide)
  obtain ⟨es, fs, s, u, run, later, lasting, marked, named⟩ :
      ∃ (es fs : List (Event Nat)) (s u : Shared Nat), Run es s ∧ Run (es ++ fs) u ∧
        (∀ e ∈ fs, e.step ≠ .teardown ∧ (e.client = 1 → e.step ≠ .rollback)) ∧
        s.committed.messages.get? ⟨4⟩ = some { hello with deleted := true, updatedAt := .ofMillis 1 } ∧
        u.committed.spaces.get? ⟨2⟩ = some { home with deleted := true, updatedAt := .ofMillis 2 } :=
    ⟨_, [_, _, _, _, _, _, _], _, _, first, second, by decide, by decide, by decide⟩
  obtain ⟨committed, seen⟩ := rows_are_permanent run later fun e mem => (lasting e mem).1
  have kept := (seen 1).2 fun e mem => (lasting e mem).2
  obtain ⟨m, found, settled⟩ := committed.messages _ _ marked
  obtain rfl := settled.2 rfl
  exact ⟨es, fs, s, u, run, later, fun e mem => (lasting e mem).1, committed, kept, marked, found, named⟩

end Shared

end ChatSpaces.Store
