import ChatSpaces.Proofs.Service.Effect
import ChatSpaces.Service.Deployment

/-!
# Runs of a service

A deployment is reached from its start by calls, moves of the clocks, identifiers drawn by others, and
teardowns. `Served` keeps of that only what matters for the tables: a series of effects, each in a context
of its own. Clients that work side by side reach no other tables.
-/

namespace ChatSpaces.Service

open Time (Instant)

/-- Tables that answered calls, whatever their contexts, make of empty ones. -/
inductive Served : Tables → Prop
  | empty : Served ∅
  | answer {c : Context} {before after : Tables} {call : Call} {l : List Ident} {a : Answer} :
      Served before → Effect c before call l a after → Served after

theorem Served.built {t : Tables} (h : Served t) : t.Built := by
  induction h with
  | empty => exact .empty
  | answer _ effect ih => exact ih.changes effect.changes

namespace Deployment

inductive Event where
  | call (c : Call)
  | draw
  | advance (ms : Int)
  | setClock (time : Instant)
  | setWall (ms : Int)
  | teardown
deriving DecidableEq, Repr

/-- A clock that would leave the calendar stays. -/
def handle (d : Deployment) : Event → Deployment
  | .call c => (d.call c).2
  | .draw => d.freshIdent.2
  | .advance ms =>
    match d.advance ms with
    | .ok moved => moved
    | .error _ => d
  | .setClock time => d.setClock time
  | .setWall ms => d.setWall ms
  | .teardown => d.teardown

def after (d : Deployment) (es : List Event) : Deployment := es.foldl handle d

/-- Some run of events leads here from empty tables. -/
def Reachable (d : Deployment) : Prop := ∃ w clocks es, d = (start w clocks).after es

def blank : Deployment := start ⟨.default, .new 0⟩ ⟨0, .ofMillis 0, false⟩

theorem reachable_blank_after (es : List Event) : (blank.after es).Reachable := ⟨_, _, es, rfl⟩

variable {d : Deployment} {c : Call}

def readingsOfCall (d : Deployment) (c : Call) : List Int := (c.perform d.context).readings d.work

/-- A call ends in one of the ways in which it can end, with the identifiers that the generator makes for it. What it
leaves in its working copy is kept if it writes and is answered. -/
theorem call_spec (d : Deployment) (c : Call) : ∃ u,
    (c.perform d.context).Yields (d.ids.draws (d.readingsOfCall c)) d.tables (d.call c).1 u ∧
      (d.call c).2 = { d with
        tables := if (d.call c).1.isOk = true ∧ c.isRead = false then u else d.tables
        ids := d.ids.afterDraws (d.readingsOfCall c) } := by
  have staged := staged_perform c d.context
  have ends := Action.yields_of_run staged d.work fun _ => rfl
  have committed := Action.committed_of_run staged nofun d.work
  unfold call readingsOfCall
  cases ran : (c.perform d.context).run d.work with
  | ok a w =>
    rw [ran] at ends committed
    refine ⟨w.tables, ends.1, ?_⟩
    simp only [Call.lastStage_eq_after_iff] at committed
    simp only [keep, committed, ends.2, Except.isOk, Except.toBool, true_and, work]
  | error r w =>
    rw [ran] at ends committed
    refine ⟨w.tables, ends.1, ?_⟩
    simp only at committed
    simp only [keep, committed, ends.2, work]
    rfl

theorem ids_call (d : Deployment) (c : Call) : (d.call c).2.ids = d.ids.afterDraws (d.readingsOfCall c) := by
  obtain ⟨u, -, left⟩ := d.call_spec c
  exact congrArg ids left

theorem tables_of_isRead (d : Deployment) (reads : c.isRead = true) : (d.call c).2.tables = d.tables := by
  obtain ⟨u, -, left⟩ := d.call_spec c
  rw [left, reads]
  exact if_neg nofun

theorem effect_of_answered {a : Answer} (h : (d.call c).1 = .ok a) :
    Effect d.context d.tables c (d.ids.draws (d.readingsOfCall c)) a (d.call c).2.tables := by
  obtain ⟨u, yields, left⟩ := d.call_spec c
  rw [h] at yields left
  cases reads : c.isRead with
  | true =>
    rw [tables_of_isRead d reads, (look_of_isRead reads yields).1]
    exact .look reads
  | false =>
    rw [left, reads, if_pos ⟨rfl, rfl⟩]
    exact effect_of_yields yields

theorem effect_of_call {a : Answer} (h : (d.call c).1 = .ok a) :
    ∃ l, Effect d.context d.tables c l a (d.call c).2.tables := ⟨_, effect_of_answered h⟩

theorem refusal_of_call {r : Refusal} (refused : (d.call c).1 = .error r) :
    ∃ u, (c.perform d.context).Yields (d.ids.draws (d.readingsOfCall c)) d.tables (.error r) u := by
  obtain ⟨u, yields, -⟩ := d.call_spec c
  exact ⟨u, refused ▸ yields⟩

theorem tables_of_refused {r : Refusal} (h : (d.call c).1 = .error r) : (d.call c).2.tables = d.tables := by
  obtain ⟨u, -, left⟩ := d.call_spec c
  have unanswered : ¬ ((d.call c).1.isOk = true ∧ c.isRead = false) := by simp [h, Except.isOk, Except.toBool]
  rw [left, if_neg unanswered]

theorem call_of_yields {o : Except Refusal Answer} {u : Tables} (h : (c.perform d.context).Yields [] d.tables o u) :
    (d.call c).1 = o := by
  obtain ⟨v, ran⟩ := Action.run_of_yields (staged_perform c d.context) d.work (fun _ => rfl) h
  unfold call
  rw [ran]
  cases o <;> rfl

/-- What decides a call: it is answered where something may be done and refused for what stands against it, and of
the two there is always one. -/
theorem call_decided {may : Prop} {against : Refusal → Prop} (through : may → ∃ a, (d.call c).1 = .ok a)
    (turned : ∀ r, against r → (d.call c).1 = .error r) (complete : may ∨ ∃ r, against r) :
    ((∃ a, (d.call c).1 = .ok a) ↔ may) ∧ ∀ r, (d.call c).1 = .error r ↔ against r := by
  rcases complete with free | ⟨s, stands⟩
  · obtain ⟨a, answered⟩ := through free
    refine ⟨⟨fun _ => free, through⟩, fun r => ⟨fun refused => ?_, turned r⟩⟩
    cases answered.symm.trans refused
  · have refused := turned s stands
    constructor
    · constructor
      · rintro ⟨a, answered⟩
        cases answered.symm.trans refused
      · exact through
    · intro r
      refine ⟨fun refused' => ?_, turned r⟩
      cases refused.symm.trans refused'
      exact stands

theorem context_call (d : Deployment) (c : Call) : (d.call c).2.context = d.context := by
  obtain ⟨u, -, left⟩ := d.call_spec c
  rw [left]
  rfl

theorem served_handle (h : Served d.tables) (e : Event) : Served (d.handle e).tables := by
  cases e with
  | call c =>
    cases answered : (d.call c).1 with
    | error r =>
      rw [handle, tables_of_refused answered]
      exact h
    | ok a =>
      obtain ⟨l, effect⟩ := effect_of_call answered
      exact .answer h effect
  | draw => exact h
  | advance ms =>
    simp only [handle, advance]
    cases d.clocks.manual.addMillis? ms with
    | none => exact h
    | some moved => exact h
  | setClock time => exact h
  | setWall ms => exact h
  | teardown => exact .empty

theorem served_after (h : Served d.tables) (es : List Event) : Served (d.after es).tables := by
  induction es generalizing d with
  | nil => exact h
  | cons e es ih => exact ih (served_handle h e)

theorem Reachable.served (h : d.Reachable) : Served d.tables := by
  obtain ⟨w, clocks, es, rfl⟩ := h
  exact served_after .empty es

end Deployment

end ChatSpaces.Service
