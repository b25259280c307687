import ChatSpaces.Tables.Operation

/-!
# The store

Committed tables and at most one open unit of work. A unit works on a copy of the tables: committing
puts the copy in their place, rolling back forgets it. While a unit is open nobody else gets in.
-/

namespace ChatSpaces

structure Store where
  committed : Tables
  working : Option Tables
deriving DecidableEq

namespace Store

open Tables (Operation)

def empty : Store := ⟨∅, none⟩

inductive Obstacle where
  | unitIsOpen
  | noUnitOpen
  | failed (cause : Failure)
deriving DecidableEq, Repr

inductive Step where
  | begin
  | commit
  | rollback
  /-- Makes sure that the tables exist, which they always do. -/
  | provision
  | teardown
  | perform (o : Operation)
deriving DecidableEq, Repr

/-- What a step answers, and the store after it; a step that meets an obstacle changes nothing. -/
def step (s : Store) : Step → Except Obstacle Answer × Store
  | .begin =>
    match s.working with
    | none => (.ok .done, { s with working := some s.committed })
    | some _ => (.error .unitIsOpen, s)
  | .commit =>
    match s.working with
    | none => (.error .noUnitOpen, s)
    | some work => (.ok .done, ⟨work, none⟩)
  | .rollback => (.ok (.flag s.working.isSome), { s with working := none })
  | .provision => (.ok .done, s)
  | .teardown =>
    match s.working with
    | none => (.ok .done, ⟨∅, none⟩)
    | some _ => (.error .unitIsOpen, s)
  | .perform o =>
    match s.working with
    | none => (.error .noUnitOpen, s)
    | some work =>
      match o.apply work with
      | .error f => (.error (.failed f), s)
      | .ok (answer, changed) => (.ok answer, { s with working := some changed })

def steps (s : Store) : List Step → List (Except Obstacle Answer) × Store
  | [] => ([], s)
  | first :: rest =>
    let taken := s.step first
    let others := steps taken.2 rest
    (taken.1 :: others.1, others.2)

theorem step_of_error {s : Store} {a : Step} {o : Obstacle} (h : (s.step a).1 = .error o) :
    (s.step a).2 = s := by
  unfold step at *
  split <;> try split <;> try split
  all_goals simp_all

end Store

end ChatSpaces
