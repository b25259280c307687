import ChatSpaces.Proofs.Service.Solo
import ChatSpaces.Proofs.Service.Validation

/-!
# Refused calls leave nothing behind

A call is carried out here on a store: it begins its unit of work on the way, changes the working copy in place,
and commits the copy where the call says so. Whatever is not committed when the call ends is dropped with the
copy, and a request that is invalid is refused before anything else is done.
-/

namespace ChatSpaces

def Store.take (s : Store) (a : Store.Step) : Except Store.Obstacle Store :=
  (s.step a).1.map fun _ => (s.step a).2

namespace Service

open Store (Obstacle Step)

structure Outcome (α : Type) where
  result : Except Refusal α
  store : Store
  ids : Generator

namespace Action

variable {α : Type}

/-- Takes the steps of an action on a store. However the action ends, a unit that is open then is dropped. -/
def carryOut : Action α → Store → Generator → Except Obstacle (Outcome α)
  | .done a, s, ids => (s.take .rollback).map (⟨.ok a, ·, ids⟩)
  | .refuse r, s, ids => (s.take .rollback).map (⟨.error r, ·, ids⟩)
  | .enter rest, s, ids => (s.take .begin).bind (rest.carryOut · ids)
  | .touch f next, s, ids =>
    match s.working with
    | none => .error .noUnitOpen
    | some t => (next (f t).1).carryOut { s with working := some (f t).2 } ids
  | .draw wall next, s, ids => (next (ids.next wall).1).carryOut s (ids.next wall).2
  | .commit rest, s, ids => (s.take .commit).bind (rest.carryOut · ids)

def ended : EStateM.Result Refusal Work α → Outcome α
  | .ok a w => ⟨.ok a, ⟨w.committed, none⟩, w.ids⟩
  | .error r w => ⟨.error r, ⟨w.committed, none⟩, w.ids⟩

/-- Within its unit of work an action changes the working copy only, up to a commit. -/
theorem carryOut_inside {a : Action α} {q : Stage} (staged : a.Staged .inside q) (w : Work) :
    a.carryOut ⟨w.committed, some w.tables⟩ w.ids = .ok (ended (a.run w)) := by
  induction a generalizing w with
  | done a => rfl
  | refuse r => rfl
  | enter rest ih => cases staged.1
  | touch f next ih => exact ih _ (staged.2 _) { w with tables := (f w.tables).2 }
  | draw wall next ih => exact ih _ (staged.2 _) { w with ids := (w.ids.next wall).2 }
  | commit rest _ =>
    obtain ⟨-, x, rfl⟩ := staged.2.eq_done
    rfl

theorem carryOut_outside {a : Action α} {q : Stage} (staged : a.Staged .before q) (w : Work) :
    a.carryOut ⟨w.committed, none⟩ w.ids = .ok (ended (a.run w)) := by
  induction a generalizing w with
  | done a => rfl
  | refuse r => rfl
  | enter rest _ => exact carryOut_inside staged.2 { w with tables := w.committed }
  | touch f next ih => cases staged.1
  | draw wall next ih => exact ih _ (staged.2 _) { w with ids := (w.ids.next wall).2 }
  | commit rest _ => cases staged.1

end Action

namespace Deployment

variable (d : Deployment) (c : Call)

/-- A call carried out step by step comes to what it comes to when it is taken at once. -/
theorem carryOut_call :
    (c.perform d.context).carryOut ⟨d.tables, none⟩ d.ids =
      .ok ⟨(d.call c).1, ⟨(d.call c).2.tables, none⟩, (d.call c).2.ids⟩ := by
  rw [call]
  refine (Action.carryOut_outside (staged_perform c d.context) d.work).trans ?_
  cases (c.perform d.context).run d.work <;> rfl

theorem call_eq : d.call c =
    ((d.call c).1, { d with tables := (d.call c).2.tables, ids := (d.call c).2.ids }) := by
  rw [call]
  cases (c.perform d.context).run d.work <;> rfl

end Deployment

/-- Errors are atomic. A step within a unit of work is its operation, carried out in place on the working copy,
and has written nothing if it fails. A call commits its unit of work when nothing but its answer is left, if it
writes, and never if it only looks or is refused. So, carried out on whatever tables, it gets to its end, comes to
what the deployment answers and leaves no unit open; whatever its unit has written, the committed tables are as
they were if the call only looks or is refused, and so is the generator if the request is invalid. -/
theorem errors_are_atomic :
    (∀ (o : Tables.Operation) (committed t : Tables),
      ((⟨committed, some t⟩ : Store).step (.perform o) =
        match o.procedure.run t with
        | .ok a u => (.ok a, ⟨committed, some u⟩)
        | .error f u => (.error (.failed f), ⟨committed, some u⟩)) ∧
      ∀ f u, o.procedure.run t = .error f u → u = t) ∧
    (∀ (c : Call) (k : Context), (c.perform k).Staged .before (if c.isRead then .inside else .after)) ∧
    ∀ (d : Deployment) (c : Call), ∃ x : Outcome Answer,
      (c.perform d.context).carryOut ⟨d.tables, none⟩ d.ids = .ok x ∧
      d.call c = (x.result, { d with tables := x.store.committed, ids := x.ids }) ∧
      x.store.working = none ∧
      (c.isRead = true → x.store.committed = d.tables) ∧
      ∀ r, x.result = .error r →
        x.store.committed = d.tables ∧ (r.kind = .invalid → x.ids = d.ids) := by
  refine ⟨?_, staged_perform, ?_⟩
  · intro o committed t
    exact ⟨Store.step_perform_in_place committed t o, fun f u failed => Tables.Operation.unchanged_of_error failed⟩
  · intro d c
    refine ⟨_, d.carryOut_call c, d.call_eq c, rfl, d.tables_of_isRead, ?_⟩
    intro r refused
    refine ⟨Deployment.tables_of_refused refused, ?_⟩
    intro invalid
    exact congrArg Deployment.ids (Deployment.call_of_invalid refused invalid)

/-- User 1 makes a space where a stray row already has the user among the members of space 2, the next one: the
space has been written when its owner cannot join it, and is dropped with the working copy. -/
theorem errors_are_atomic_createSpace :
    let known := Deployment.blank.after [.call (.createUser ⟨"ann", none⟩)]
    let members := known.tables.spaceMembers.insert (⟨2⟩, ⟨1⟩) ⟨⟨2⟩, ⟨1⟩, .member, .ofMillis 0⟩
    let d : Deployment := { known with tables := { known.tables with spaceMembers := members } }
    let c := Call.createSpace ⟨1⟩ ⟨"home", none⟩
    let written := System.workLeft ((c.perform d.context).run d.work)
    (d.call c).1.isOk = false ∧ written.tables.spaces.contains ⟨2⟩ = true ∧ (d.call c).2.tables = d.tables := by
  intro known members d c written
  have refused : (d.call c).1.isOk = false := by decide
  refine ⟨refused, by decide, ?_⟩
  obtain ⟨x, -, agrees, -, -, unchanged⟩ := errors_are_atomic.2.2 d c
  rw [agrees] at refused ⊢
  cases result : x.result with
  | ok a =>
    rw [result] at refused
    cases refused
  | error r => exact (unchanged r result).1

end Service

end ChatSpaces
