import ChatSpaces.Proofs.Store.Shared

/-!
# Units of work take place one after the other

A `Ledger` reads off a run which operations every unit of work performed, what they answered and how the unit
ended. What the entries of a ledger leave is said without the steps of the store: the operations of a committed
unit are applied in turn to the tables that it found, a dropped unit leaves these as they were, and a teardown
leaves none. Whatever the interleaving was, that is what is committed, and the answers are those that the
operations have there. A lone client who takes the steps of the kept units one after the other gets the same.
-/

namespace ChatSpaces.Store

open Tables (Operation)

/-- What operations answer that are applied in turn, and the tables after the last of them. -/
def outcomes (t : Tables) : List Operation → List (Except Obstacle Answer) × Tables
  | [] => ([], t)
  | o :: os => ((outcome t o).1 :: (outcomes (outcome t o).2 os).1, (outcomes (outcome t o).2 os).2)

theorem outcomes_append (t : Tables) (os ps : List Operation) :
    outcomes t (os ++ ps) =
      ((outcomes t os).1 ++ (outcomes (outcomes t os).2 ps).1, (outcomes (outcomes t os).2 ps).2) := by
  induction os generalizing t with
  | nil => rfl
  | cons o os ih => simp only [List.cons_append, outcomes, ih]

/-- Operations in the order in which a unit of work performed them, each with what it answered. -/
abbrev Deeds := List (Operation × Except Obstacle Answer)

namespace Deeds

def operations (d : Deeds) : List Operation := d.map Prod.fst

def answers (d : Deeds) : List (Except Obstacle Answer) := d.map Prod.snd

end Deeds

/-- How a unit of work ended, or that the tables were torn down. -/
inductive Entry where
  | committed (deeds : Deeds)
  | dropped (deeds : Deeds)
  | teardown

namespace Entry

def isKept : Entry → Bool
  | committed _ | teardown => true
  | dropped _ => false

def deeds : Entry → Deeds
  | committed d | dropped d => d
  | teardown => []

def ending : Entry → Step
  | committed _ => .commit
  | dropped _ => .rollback
  | teardown => .teardown

def leaves (t : Tables) : Entry → Tables
  | committed d => (outcomes t d.operations).2
  | dropped _ => t
  | teardown => ∅

/-- The steps by which a lone client does the same. -/
def script : Entry → List Step
  | committed d => .begin :: (d.operations.map .perform ++ [.commit])
  | dropped d => .begin :: (d.operations.map .perform ++ [.rollback])
  | teardown => [.teardown]

def answers : Entry → List (Except Obstacle Answer)
  | committed d => .ok .done :: (d.answers ++ [.ok .done])
  | dropped d => .ok .done :: (d.answers ++ [.ok (.flag true)])
  | teardown => [.ok .done]

end Entry

/-- What the entries, one after the other, leave of empty tables. -/
def leftBy (es : List Entry) : Tables := es.foldl Entry.leaves ∅

/-- What has ended, in this order, and what each client has done in the unit that it began last. -/
structure Ledger (ι : Type) where
  entries : List Entry
  current : ι → Deeds

namespace Event

variable {ι : Type}

def isEnding (e : Event ι) : Bool :=
  match e.step with
  | .commit | .rollback | .teardown => true
  | _ => false

def operation? (e : Event ι) : Option (Operation × Except Obstacle Answer) :=
  match e.step with
  | .perform o => some (o, e.answer)
  | _ => none

end Event

namespace Ledger

variable {ι : Type}

def kept (l : Ledger ι) : List Entry := l.entries.filter Entry.isKept

def operations (l : Ledger ι) (holder : Option ι) : Deeds :=
  l.entries.flatMap Entry.deeds ++ holder.elim [] l.current

variable [DecidableEq ι]

def record (l : Ledger ι) (e : Event ι) : Ledger ι :=
  match e.step with
  | .begin => { l with current := Function.update l.current e.client [] }
  | .perform o =>
    { l with current := Function.update l.current e.client (l.current e.client ++ [(o, e.answer)]) }
  | .commit => { l with entries := l.entries ++ [.committed (l.current e.client)] }
  | .rollback => { l with entries := l.entries ++ [.dropped (l.current e.client)] }
  | .teardown => { l with entries := l.entries ++ [.teardown] }
  | .provision => l

def ofEvents (es : List (Event ι)) : Ledger ι := es.foldl record ⟨[], fun _ => []⟩

theorem ofEvents_snoc (es : List (Event ι)) (e : Event ι) :
    ofEvents (es ++ [e]) = (ofEvents es).record e := by
  rw [ofEvents, List.foldl_append]
  rfl

end Ledger

/-- Each operation of the entries has answered what it answers after those before it, the first on `t`. -/
def Answered (t : Tables) : List Entry → Prop
  | [] => True
  | e :: es => (outcomes t e.deeds.operations).1 = e.deeds.answers ∧ Answered (e.leaves t) es

theorem answered_append {t : Tables} {es fs : List Entry} :
    Answered t (es ++ fs) ↔ Answered t es ∧ Answered (es.foldl Entry.leaves t) fs := by
  induction es generalizing t with
  | nil => simp [Answered]
  | cons e es ih => simp only [List.cons_append, Answered, ih, List.foldl_cons, and_assoc]

theorem steps_append (s : Store) (as bs : List Step) :
    s.steps (as ++ bs) =
      ((s.steps as).1 ++ ((s.steps as).2.steps bs).1, ((s.steps as).2.steps bs).2) := by
  induction as generalizing s with
  | nil => rfl
  | cons a as ih => simp only [List.cons_append, steps, ih]

/-- Within a unit of work the steps of the store apply the operations. -/
theorem steps_perform (c t : Tables) (os : List Operation) :
    (⟨c, some t⟩ : Store).steps (os.map .perform) = ((outcomes t os).1, ⟨c, some (outcomes t os).2⟩) := by
  induction os generalizing t with
  | nil => rfl
  | cons o os ih => simp only [List.map_cons, steps, step_perform, ih, outcomes]

theorem steps_script {t : Tables} {e : Entry} (answered : (outcomes t e.deeds.operations).1 = e.deeds.answers) :
    (⟨t, none⟩ : Store).steps e.script = (e.answers, ⟨e.leaves t, none⟩) := by
  have begun : (⟨t, none⟩ : Store).step .begin = (.ok .done, ⟨t, some t⟩) := rfl
  cases e with
  | committed d | dropped d =>
    have performed : (outcomes t d.operations).1 = d.answers := answered
    simp only [Entry.script, steps, begun, steps_append, steps_perform, performed]
    rfl
  | teardown => rfl

/-- A lone client who does what has been kept gets the answers that it had, and leaves what it left. -/
theorem Answered.steps {t : Tables} {es : List Entry} (h : Answered t es) :
    (⟨t, none⟩ : Store).steps ((es.filter Entry.isKept).flatMap Entry.script) =
      ((es.filter Entry.isKept).flatMap Entry.answers, ⟨es.foldl Entry.leaves t, none⟩) := by
  induction es generalizing t with
  | nil => rfl
  | cons e es ih =>
    have others := ih h.2
    cases kept : e.isKept with
    | true =>
      rw [List.filter_cons_of_pos kept, List.flatMap_cons, List.flatMap_cons, List.foldl_cons, steps_append,
        steps_script h.1, others]
    | false =>
      -- The lone client passes over a dropped unit, which has left the tables as they were.
      cases e with
      | dropped d => exact others
      | _ => cases kept

/-- The ledger accounts for the state: its entries leave the committed tables and have had their answers, and what
a unit has done that is open makes its working copy of the committed tables. -/
structure Explains {ι : Type} (l : Ledger ι) (s : Shared ι) : Prop where
  committed : s.committed = leftBy l.entries
  answered : Answered ∅ l.entries
  opened : ∀ i t, s.copies i = some t →
    outcomes s.committed (l.current i).operations = ((l.current i).answers, t)

namespace Explains

variable {ι : Type} {l : Ledger ι} {s : Shared ι} {i : ι}

/-- When no unit is left open, one more entry accounts for the tables that it leaves. -/
theorem ending (h : Explains l s) {e : Entry} (last : (outcomes s.committed e.deeds.operations).1 = e.deeds.answers)
    {holder : Option ι} {copies : ι → Option Tables} (closed : ∀ j, copies j = none) :
    Explains { l with entries := l.entries ++ [e] } ⟨e.leaves s.committed, holder, copies⟩ where
  committed := by
    rw [leftBy, List.foldl_append, ← leftBy, ← h.committed]
    rfl
  answered := by
    rw [h.committed] at last
    exact answered_append.mpr ⟨h.answered, last, trivial⟩
  opened j t copy := by
    cases (closed j).symm.trans copy

variable [DecidableEq ι]

theorem empty : Explains (Ledger.ofEvents []) (Shared.empty : Shared ι) where
  committed := rfl
  answered := trivial
  opened := by simp [Shared.empty]

theorem begin (h : Explains l s) (free : ∀ j, s.copies j = none) (x : Except Obstacle Answer) :
    Explains (l.record ⟨i, .begin, x⟩)
      ⟨s.committed, some i, Function.update s.copies i (some s.committed)⟩ where
  committed := h.committed
  answered := h.answered
  opened j t copy := by
    by_cases same : j = i
    · subst same
      simp only [Function.update_self, Option.some.injEq] at copy
      simp only [Ledger.record, Function.update_self, ← copy]
      rfl
    · simp [same, free j] at copy

theorem perform (h : Explains l s) {t : Tables} (copy : s.copies i = some t) (o : Operation) :
    Explains (l.record ⟨i, .perform o, (outcome t o).1⟩)
      ⟨s.committed, s.holder, Function.update s.copies i (some (outcome t o).2)⟩ where
  committed := h.committed
  answered := h.answered
  opened j u copy' := by
    by_cases same : j = i
    · subst same
      simp only [Function.update_self, Option.some.injEq] at copy'
      have before := h.opened j t copy
      simp only [Deeds.operations, Deeds.answers] at before
      simp only [Ledger.record, Function.update_self, ← copy', Deeds.operations, Deeds.answers, List.map_append,
        List.map_cons, List.map_nil, outcomes_append, before, outcomes]
    · simp only [Ledger.record, ne_eq, same, not_false_eq_true, Function.update_of_ne] at copy' ⊢
      exact h.opened j u copy'

theorem commit (h : Explains l s) (locked : s.Locked) {t : Tables} (copy : s.copies i = some t)
    (x : Except Obstacle Answer) :
    Explains (l.record ⟨i, .commit, x⟩) ⟨t, none, Function.update s.copies i none⟩ := by
  have performed := h.opened i t copy
  have left : t = (Entry.committed (l.current i)).leaves s.committed := by rw [Entry.leaves, performed]
  have closed := locked.copies_of_released (Option.ne_none_iff_exists'.mpr ⟨t, copy⟩)
  rw [left]
  exact h.ending (e := .committed (l.current i)) (congrArg Prod.fst performed) closed

theorem rollback (h : Explains l s) (locked : s.Locked) {t : Tables} (copy : s.copies i = some t)
    (x : Except Obstacle Answer) :
    Explains (l.record ⟨i, .rollback, x⟩) ⟨s.committed, none, Function.update s.copies i none⟩ :=
  h.ending (e := .dropped (l.current i)) (congrArg Prod.fst (h.opened i t copy))
    (locked.copies_of_released (Option.ne_none_iff_exists'.mpr ⟨t, copy⟩))

theorem teardown (h : Explains l s) (free : ∀ j, s.copies j = none) (x : Except Obstacle Answer) :
    Explains (l.record ⟨i, .teardown, x⟩) ⟨∅, s.holder, s.copies⟩ :=
  h.ending (e := .teardown) rfl free

/-- The ledger still accounts for the state after one more step of any client. -/
theorem take (h : Explains l s) (locked : s.Locked) {a : Step} (enabled : s.Enabled i a) :
    Explains (l.record ⟨i, a, (s.take i a).1⟩) (s.take i a).2 := by
  cases a with
  | begin =>
    rw [Shared.take_begin (locked.copies_of_free enabled i)]
    exact h.begin (locked.copies_of_free enabled) _
  | commit =>
    obtain ⟨t, copy⟩ := Option.ne_none_iff_exists'.mp enabled
    rw [Shared.take_commit copy]
    exact h.commit locked copy _
  | rollback =>
    obtain ⟨t, copy⟩ := Option.ne_none_iff_exists'.mp enabled
    rw [Shared.take_rollback copy]
    exact h.rollback locked copy _
  | provision =>
    rw [Shared.take_provision]
    exact h
  | teardown =>
    rw [Shared.take_teardown (locked.copies_of_free enabled i)]
    exact h.teardown (locked.copies_of_free enabled) _
  | perform o =>
    obtain ⟨t, copy⟩ := Option.ne_none_iff_exists'.mp enabled
    rw [Shared.take_perform copy]
    exact h.perform copy o

end Explains

namespace Shared.Run

variable {ι : Type} [DecidableEq ι] {es : List (Event ι)} {s : Shared ι}

theorem explained (run : Run es s) : Explains (Ledger.ofEvents es) s := by
  induction run with
  | nil => exact .empty
  | snoc run enabled ih =>
    rw [Ledger.ofEvents_snoc]
    exact ih.take run.locked enabled

theorem endings (run : Run es s) :
    (Ledger.ofEvents es).entries.map Entry.ending = (es.filter Event.isEnding).map Event.step := by
  induction run with
  | nil => rfl
  | @snoc es s i a run enabled ih =>
    rw [Ledger.ofEvents_snoc, List.filter_append, List.map_append, ← ih]
    cases a <;> simp [Ledger.record, Event.isEnding, Entry.ending, List.filter_cons]

/-- An operation is entered behind all others: it belongs to the unit that holds the lock. -/
theorem operations_take (l : Ledger ι) (locked : s.Locked) {i : ι} {a : Step} (enabled : s.Enabled i a)
    (x : Except Obstacle Answer) :
    (l.record ⟨i, a, x⟩).operations (s.take i a).2.holder =
      l.operations s.holder ++ (Event.operation? (⟨i, a, x⟩ : Event ι)).toList := by
  change (l.record ⟨i, a, x⟩).operations (holderAfter s.holder i a) = _
  cases a with
  | begin =>
    have free : s.holder = none := enabled
    simp [Ledger.record, Ledger.operations, holderAfter, free, Event.operation?]
  | commit =>
    simp [Ledger.record, Ledger.operations, holderAfter, (locked i).mp enabled, Event.operation?, Entry.deeds]
  | rollback =>
    simp [Ledger.record, Ledger.operations, holderAfter, (locked i).mp enabled, Event.operation?, Entry.deeds]
  | provision => simp [Ledger.record, holderAfter, Event.operation?]
  | teardown =>
    have free : s.holder = none := enabled
    simp [Ledger.record, Ledger.operations, holderAfter, free, Event.operation?, Entry.deeds]
  | perform o =>
    simp [Ledger.record, Ledger.operations, holderAfter, (locked i).mp enabled, Event.operation?]

theorem operations (run : Run es s) :
    (Ledger.ofEvents es).operations s.holder = es.filterMap Event.operation? := by
  induction run with
  | nil => rfl
  | @snoc es s i a run enabled ih =>
    rw [Ledger.ofEvents_snoc, operations_take _ run.locked enabled, ih, List.filterMap_append]
    cases a <;> rfl

end Shared.Run

namespace Shared

/-- However the steps of the clients interleave, what is committed is what the ended units leave in their order: of
empty tables, the operations of each committed unit, applied in turn to what those before it left, and nothing of
what was before a teardown. Every unit, committed or dropped, has had the answers that its operations have there,
and so has one that is open, which has its working copy from them; dropped, a unit leaves nothing behind. A lone
client who takes the steps of the committed units and the teardowns, one after the other, comes to the same tables
by the same answers. No two units are open together, and the units hold every operation once, in the order in which
the operations were performed. -/
theorem interleaving_is_serial {ι : Type} [DecidableEq ι] {es : List (Event ι)} {s : Shared ι}
    (run : Run es s) :
    let l := Ledger.ofEvents es
    s.committed = leftBy l.entries ∧
      (∀ before e after, l.entries = before ++ e :: after →
        (outcomes (leftBy before) e.deeds.operations).1 = e.deeds.answers) ∧
      (∀ i t, s.copies i = some t →
        outcomes s.committed (l.current i).operations = ((l.current i).answers, t)) ∧
      Store.empty.steps (l.kept.flatMap Entry.script) =
        (l.kept.flatMap Entry.answers, ⟨s.committed, none⟩) ∧
      (∀ i, s.copies i ≠ none ↔ s.holder = some i) ∧
      l.operations s.holder = es.filterMap Event.operation? ∧
      l.entries.map Entry.ending = (es.filter Event.isEnding).map Event.step := by
  intro l
  have explained : Explains l s := run.explained
  refine ⟨explained.committed, ?_, explained.opened, ?_, run.locked, run.operations, run.endings⟩
  · intro before e after split
    have answered := explained.answered
    rw [split, answered_append] at answered
    exact answered.2.1
  · rw [explained.committed]
    exact explained.answered.steps

/-- Client 1 finds what client 0 has committed, fails to store it again and drops the unit; then client 0
tears down and client 1 starts over. -/
theorem interleaving_is_serial_of_two :
    let ann : User := ⟨⟨1⟩, "ann", "", false, .ofMillis 0⟩
    let bob : User := ⟨⟨2⟩, "bob", "", false, .ofMillis 0⟩
    let first : Deeds := [(.insertUser ann, .ok .done)]
    let refused : Deeds := [(.findUser ⟨1⟩, .ok (.optional .user (some ann))),
      (.insertUser ann, .error (.failed (.duplicate ("user " ++ ann.id.toText))))]
    let second : Deeds := [(.insertUser bob, .ok .done)]
    ∃ (es : List (Event Nat)) (s : Shared Nat), Run es s ∧
      (Ledger.ofEvents es).entries = [.committed first, .dropped refused, .teardown, .committed second] ∧
      (outcomes (leftBy [.committed first]) refused.operations).1 = refused.answers ∧
      s.committed.users.rows = [bob] := by
  intro ann bob first refused second
  have taken := (Run.nil : Run ([] : List (Event Nat)) _)
    |>.snoc (i := 0) (a := .begin) rfl
    |>.snoc (i := 1) (a := .provision) trivial
    |>.snoc (i := 0) (a := .perform (.insertUser ann)) (by decide)
    |>.snoc (i := 0) (a := .commit) (by decide)
    |>.snoc (i := 1) (a := .begin) rfl
    |>.snoc (i := 1) (a := .perform (.findUser ⟨1⟩)) (by decide)
    |>.snoc (i := 1) (a := .perform (.insertUser ann)) (by decide)
    |>.snoc (i := 1) (a := .rollback) (by decide)
    |>.snoc (i := 0) (a := .teardown) rfl
    |>.snoc (i := 1) (a := .begin) rfl
    |>.snoc (i := 1) (a := .perform (.insertUser bob)) (by decide)
    |>.snoc (i := 1) (a := .commit) (by decide)
  obtain ⟨es, s, run, entries⟩ : ∃ (es : List (Event Nat)) (s : Shared Nat), Run es s ∧
      (Ledger.ofEvents es).entries = [.committed first, .dropped refused, .teardown, .committed second] :=
    ⟨_, _, taken, rfl⟩
  obtain ⟨left, answered, -⟩ := interleaving_is_serial run
  refine ⟨es, s, run, entries, answered [.committed first] (.dropped refused) _ entries, ?_⟩
  rw [left, entries]
  decide

end Shared

end ChatSpaces.Store
