import ChatSpaces.Proofs.Store.Shared
import ChatSpaces.Proofs.Tables.Integrity

/-!
# Integrity of the store

Whatever operations the clients perform with whatever rows, the committed tables and the working copy of an open
unit are made of empty tables by changes. So their keys are right, their references lead somewhere, and reads
for which deleted rows count miss none that is stored.
-/

namespace ChatSpaces.Store

open Tables (Built Operation)

theorem built_outcome {t : Tables} (h : t.Built) (o : Operation) : (outcome t o).2.Built := by
  unfold outcome
  cases result : o.apply t with
  | error f => exact h
  | ok done => exact h.change (Tables.change_of_apply result)

namespace Shared

variable {ι : Type}

structure AllBuilt (s : Shared ι) : Prop where
  committed : s.committed.Built
  copies : ∀ i t, s.copies i = some t → t.Built

namespace AllBuilt

theorem empty : (Shared.empty : Shared ι).AllBuilt := ⟨.empty, fun _ _ copy => nomatch copy⟩

variable [DecidableEq ι] {s : Shared ι} {i : ι} {holder : Option ι}

theorem update (h : s.AllBuilt) {c : Tables} (committed : c.Built) {copy : Option Tables}
    (built : ∀ t ∈ copy, t.Built) : AllBuilt ⟨c, holder, Function.update s.copies i copy⟩ := by
  refine ⟨committed, fun j t there => ?_⟩
  change Function.update s.copies i copy j = some t at there
  by_cases same : j = i
  · subst same
    rw [Function.update_self] at there
    exact built t there
  · rw [Function.update_of_ne same] at there
    exact h.copies j t there

theorem take (h : s.AllBuilt) (locked : s.Locked) {a : Step} (enabled : s.Enabled i a) :
    (s.take i a).2.AllBuilt := by
  cases a with
  | begin =>
    rw [take_begin (locked.copies_of_free enabled i)]
    exact h.update h.committed fun t copy => Option.mem_some_iff.mp copy ▸ h.committed
  | commit =>
    obtain ⟨t, copy⟩ := Option.ne_none_iff_exists'.mp enabled
    rw [take_commit copy]
    exact h.update (h.copies i t copy) fun _ none => nomatch none
  | rollback =>
    obtain ⟨t, copy⟩ := Option.ne_none_iff_exists'.mp enabled
    rw [take_rollback copy]
    exact h.update h.committed fun _ none => nomatch none
  | provision =>
    rw [take_provision]
    exact h
  | teardown =>
    rw [take_teardown (locked.copies_of_free enabled i)]
    exact ⟨.empty, h.copies⟩
  | perform o =>
    obtain ⟨t, copy⟩ := Option.ne_none_iff_exists'.mp enabled
    rw [take_perform copy]
    refine h.update h.committed fun u changed => ?_
    rw [← Option.mem_some_iff.mp changed]
    exact built_outcome (h.copies i t copy) o

end AllBuilt

variable [DecidableEq ι]

theorem Run.allBuilt {es : List (Event ι)} {s : Shared ι} (run : Run es s) : s.AllBuilt := by
  induction run with
  | nil => exact .empty
  | snoc run enabled ih => exact ih.take run.locked enabled

/-- In the committed tables and in every working copy, after any interleaving of units of work that perform
any operations, each row lies under its own key, each reference leads to a row, and no two users share a name.
Therefore a message, the media of a message and a channel with its space are found whenever they are stored,
unless the read is for live rows only. -/
theorem integrity_of_run {es : List (Event ι)} {s : Shared ι} (run : Run es s) {t : Tables}
    (state : t = s.committed ∨ ∃ i, s.copies i = some t) :
    t.Keyed ∧ t.Linked ∧ t.NamesApart ∧
      (∀ id, (Operation.findMessage .all id).apply t =
        .ok (.optional .message (t.messages.get? id), t)) ∧
      (∀ message, (Operation.findMedia .all message).apply t =
        .ok (.many .media (t.media.rows.filter (fun m => m.message = message)), t)) ∧
      ∀ id c, t.channels.get? id = some c → ∃ space, t.spaces.get? c.space = some space ∧
        (Operation.findChannelInSpace .all id).apply t = .ok (.one .channelInSpace ⟨c, space⟩, t) := by
  have built : t.Built := by
    rcases state with rfl | ⟨i, copy⟩
    · exact run.allBuilt.committed
    · exact run.allBuilt.copies i t copy
  have linked := built.linked
  refine ⟨built.keyed, linked, built.namesApart, ?_, ?_, ?_⟩
  · intro id
    rw [Operation.apply, linked.message?_all]
    rfl
  · intro message
    rw [Operation.apply, linked.mediaOf_all]
    rfl
  · intro id c found
    obtain ⟨space, there, joined⟩ := linked.channelInSpace?_all found
    refine ⟨space, there, ?_⟩
    rw [Operation.apply, joined]
    rfl

/-- Client 0 stores a message with media and marks its space and its channel deleted; a second user of the same
name is refused, and so is a channel of no space. The message is still found in the working copy. -/
theorem integrity_of_run_deleted :
    let ann : User := ⟨⟨1⟩, "ann", "", false, .ofMillis 0⟩
    let hello : Message := ⟨⟨4⟩, ⟨3⟩, ⟨1⟩, "hello", false, .ofMillis 0, .ofMillis 0⟩
    ∃ (es : List (Event Nat)) (s : Shared Nat) (t : Tables), Run es s ∧ s.copies 0 = some t ∧
      t.users.get? ⟨1⟩ = some ann ∧ t.users.get? ⟨9⟩ = none ∧ t.NamesApart ∧ t.message? .live ⟨4⟩ = none ∧
      (Operation.findMessage .all ⟨4⟩).apply t = .ok (.one .message hello, t) := by
  intro ann hello
  have run := (Run.nil : Run ([] : List (Event Nat)) _)
    |>.snoc (i := 0) (a := .begin) rfl
    |>.snoc (i := 0) (a := .perform (.insertUser ann)) (by decide)
    |>.snoc (i := 0) (a := .perform (.insertUser { ann with id := ⟨9⟩ })) (by decide)
    |>.snoc (i := 0) (a := .perform (.insertSpace ⟨⟨2⟩, "home", "", ⟨1⟩, false, .ofMillis 0, .ofMillis 0⟩))
      (by decide)
    |>.snoc (i := 0) (a := .perform (.insertChannel ⟨⟨3⟩, ⟨2⟩, "news", false, .ofMillis 0, .ofMillis 0⟩))
      (by decide)
    |>.snoc (i := 0) (a := .perform (.insertChannel ⟨⟨5⟩, ⟨7⟩, "lost", false, .ofMillis 0, .ofMillis 0⟩))
      (by decide)
    |>.snoc (i := 0) (a := .perform (.insertMessage hello)) (by decide)
    |>.snoc (i := 0) (a := .perform (.insertMedia ⟨⟨6⟩, ⟨4⟩, "ref", "image/png", .ofMillis 0⟩)) (by decide)
    |>.snoc (i := 0) (a := .perform (.deleteChannel ⟨3⟩ (.ofMillis 1))) (by decide)
    |>.snoc (i := 0) (a := .perform (.deleteSpace ⟨2⟩ (.ofMillis 1))) (by decide)
  obtain ⟨es, s, t, run, copy, first, second, hidden, stored⟩ :
      ∃ (es : List (Event Nat)) (s : Shared Nat) (t : Tables), Run es s ∧ s.copies 0 = some t ∧
        t.users.get? ⟨1⟩ = some ann ∧ t.users.get? ⟨9⟩ = none ∧ t.message? .live ⟨4⟩ = none ∧
        t.messages.get? ⟨4⟩ = some hello :=
    ⟨_, _, _, run, rfl, by decide, by decide, by decide, by decide⟩
  obtain ⟨-, -, apart, found, -⟩ := integrity_of_run run (.inr ⟨0, copy⟩)
  refine ⟨es, s, t, run, copy, first, second, apart, hidden, ?_⟩
  rw [found, stored]
  rfl

end Shared

end ChatSpaces.Store
