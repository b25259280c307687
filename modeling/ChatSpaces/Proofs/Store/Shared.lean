import ChatSpaces.Store
import Mathlib.Logic.Function.Basic

/-!
# Clients side by side

Any number of clients share a store. Each has a working copy of its own while its unit of work is open, and
one lock keeps the units apart: beginning a unit and tearing down wait until nobody holds it.
-/

namespace ChatSpaces.Store

open Tables (Operation)

structure Shared (ι : Type) where
  committed : Tables
  holder : Option ι
  copies : ι → Option Tables

structure Event (ι : Type) where
  client : ι
  step : Step
  answer : Except Obstacle Answer

namespace Shared

variable {ι : Type}

def empty : Shared ι := ⟨∅, none, fun _ => none⟩

/-- The store as a client sees it. -/
def view (s : Shared ι) (i : ι) : Store := ⟨s.committed, s.copies i⟩

/-- Who opens a unit of work or tears down has to wait for the lock. The steps within a unit have to be
those of an open one. -/
def Enabled (s : Shared ι) (i : ι) : Step → Prop
  | .begin | .teardown => s.holder = none
  | .commit | .rollback | .perform _ => s.copies i ≠ none
  | .provision => True

instance (s : Shared ι) (i : ι) : (a : Step) → Decidable (s.Enabled i a)
  | .begin | .teardown => inferInstanceAs (Decidable (s.holder = none))
  | .commit | .rollback | .perform _ => inferInstanceAs (Decidable (s.copies i ≠ none))
  | .provision => .isTrue trivial

def holderAfter (holder : Option ι) (i : ι) : Step → Option ι
  | .begin => some i
  | .commit | .rollback => none
  | .teardown | .provision | .perform _ => holder

section Run

variable [DecidableEq ι]

/-- A step of one client, on the committed tables and its own working copy. -/
def take (s : Shared ι) (i : ι) (a : Step) : Except Obstacle Answer × Shared ι :=
  let taken := (s.view i).step a
  (taken.1, ⟨taken.2.committed, holderAfter s.holder i a, Function.update s.copies i taken.2.working⟩)

inductive Run : List (Event ι) → Shared ι → Prop
  | nil : Run [] empty
  | snoc {es s i a} : Run es s → s.Enabled i a → Run (es ++ [⟨i, a, (s.take i a).1⟩]) (s.take i a).2

end Run

/-- Whoever has a working copy holds the lock, and the other way round. -/
def Locked (s : Shared ι) : Prop := ∀ i, s.copies i ≠ none ↔ s.holder = some i

namespace Locked

variable {s : Shared ι}

theorem empty : (empty : Shared ι).Locked := fun i => by simp [Shared.empty]

theorem copies_of_free (h : s.Locked) (free : s.holder = none) (i : ι) : s.copies i = none := by
  by_contra copy
  rw [(h i).mp copy] at free
  cases free

theorem copies_of_other (h : s.Locked) {i j : ι} (copy : s.copies i ≠ none) (other : j ≠ i) :
    s.copies j = none := by
  by_contra copy'
  have first := (h i).mp copy
  rw [(h j).mp copy'] at first
  exact other (Option.some.inj first)

variable [DecidableEq ι]

theorem take_lock (h : s.Locked) (free : s.holder = none) (i : ι) (c t : Tables) :
    Locked ⟨c, some i, Function.update s.copies i (some t)⟩ := by
  intro j
  by_cases same : j = i
  · simp [same]
  · simp [same, h.copies_of_free free j, Ne.symm same]

theorem release_lock (h : s.Locked) {i : ι} (copy : s.copies i ≠ none) (c : Tables) :
    Locked ⟨c, none, Function.update s.copies i none⟩ := by
  intro j
  by_cases same : j = i
  · simp [same]
  · simp [same, h.copies_of_other copy same]

theorem copies_of_released (h : s.Locked) {i : ι} (copy : s.copies i ≠ none) (j : ι) :
    Function.update s.copies i none j = none :=
  (h.release_lock copy s.committed).copies_of_free rfl j

theorem keep_lock (h : s.Locked) {i : ι} (copy : s.copies i ≠ none) (c u : Tables) :
    Locked ⟨c, s.holder, Function.update s.copies i (some u)⟩ := by
  intro j
  by_cases same : j = i
  · simp [same, (h i).mp copy]
  · simp [same, h j]

end Locked

end Shared

def outcome (t : Tables) (o : Operation) : Except Obstacle Answer × Tables :=
  match o.apply t with
  | .error f => (.error (.failed f), t)
  | .ok (answer, changed) => (.ok answer, changed)

theorem step_perform (c t : Tables) (o : Operation) :
    (⟨c, some t⟩ : Store).step (.perform o) = ((outcome t o).1, ⟨c, some (outcome t o).2⟩) := by
  simp only [step, outcome]
  cases o.apply t <;> rfl

namespace Shared

variable {ι : Type} [DecidableEq ι] {s : Shared ι} {i : ι} {t : Tables}

theorem take_begin (copy : s.copies i = none) :
    s.take i .begin = (.ok .done, ⟨s.committed, some i, Function.update s.copies i (some s.committed)⟩) := by
  simp [take, view, step, copy, holderAfter]

theorem take_commit (copy : s.copies i = some t) :
    s.take i .commit = (.ok .done, ⟨t, none, Function.update s.copies i none⟩) := by
  simp [take, view, step, copy, holderAfter]

theorem take_rollback (copy : s.copies i = some t) :
    s.take i .rollback = (.ok (.flag true), ⟨s.committed, none, Function.update s.copies i none⟩) := by
  simp [take, view, step, copy, holderAfter]

theorem take_perform (copy : s.copies i = some t) (o : Operation) :
    s.take i (.perform o) =
      ((outcome t o).1, ⟨s.committed, s.holder, Function.update s.copies i (some (outcome t o).2)⟩) := by
  simp only [take, view, copy, step_perform, holderAfter]

theorem take_teardown (copy : s.copies i = none) :
    s.take i .teardown = (.ok .done, ⟨∅, s.holder, s.copies⟩) := by
  have same : Function.update s.copies i none = s.copies := by rw [← copy, Function.update_eq_self]
  simp [take, view, step, copy, holderAfter, same]

theorem take_provision : s.take i .provision = (.ok .done, s) := by
  simp [take, view, step, holderAfter]

theorem Locked.take (h : s.Locked) {a : Step} (enabled : s.Enabled i a) : (s.take i a).2.Locked := by
  cases a with
  | begin =>
    rw [take_begin (h.copies_of_free enabled i)]
    exact h.take_lock enabled i _ _
  | commit =>
    obtain ⟨t, copy⟩ := Option.ne_none_iff_exists'.mp enabled
    rw [take_commit copy]
    exact h.release_lock enabled _
  | rollback =>
    obtain ⟨t, copy⟩ := Option.ne_none_iff_exists'.mp enabled
    rw [take_rollback copy]
    exact h.release_lock enabled _
  | provision =>
    rw [take_provision]
    exact h
  | teardown =>
    rw [take_teardown (h.copies_of_free enabled i)]
    exact h
  | perform o =>
    obtain ⟨t, copy⟩ := Option.ne_none_iff_exists'.mp enabled
    rw [take_perform copy]
    exact h.keep_lock enabled _ _

theorem Run.locked {es : List (Event ι)} (h : Run es s) : s.Locked := by
  induction h with
  | nil => exact .empty
  | snoc _ enabled ih => exact ih.take enabled

end Shared

end ChatSpaces.Store
