import ChatSpaces.Proofs.Service.Run
import Mathlib.Data.List.DropRight

/-!
# The history of a run

What a run of a deployment leaves to remember: its calls, each with the time by which the services went and what
came of it, and its teardowns. The tables after a run can be described by it.
-/

namespace ChatSpaces.Service

open Time (Instant)

inductive Deed where
  | call (now : Instant) (call : Call) (result : Except Refusal Answer)
  | teardown

def Deed.isTeardown : Deed → Bool
  | .call .. => false
  | .teardown => true

/-- A deed of the one kind has been done, and none of the other kind since. -/
def Latest (P Q : Deed → Prop) (ds : List Deed) : Prop :=
  ∃ before x after, ds = before ++ x :: after ∧ P x ∧ ∀ y ∈ after, ¬ Q y

def sinceTeardown (ds : List Deed) : List Deed := ds.rtakeWhile fun x => !x.isTeardown

section Lists

variable {P Q : Deed → Prop} {ds : List Deed} {x : Deed}

theorem not_latest_nil : ¬ Latest P Q [] := by
  rintro ⟨before, x, after, split, -⟩
  exact absurd split (by simp)

/-- Only the last deed can end what was so before it, or begin what is so after it. -/
theorem latest_snoc : Latest P Q (ds ++ [x]) ↔ P x ∨ (Latest P Q ds ∧ ¬ Q x) := by
  constructor
  · rintro ⟨before, y, after, split, begins, stays⟩
    rcases List.eq_nil_or_concat after with rfl | ⟨after, z, rfl⟩
    · obtain ⟨-, last⟩ := List.append_inj' split rfl
      cases last
      exact .inl begins
    · rw [List.concat_eq_append] at split stays
      rw [← List.cons_append, ← List.append_assoc] at split
      obtain ⟨rfl, last⟩ := List.append_inj' split rfl
      cases last
      refine .inr ⟨⟨before, y, after, rfl, begins, ?_⟩, stays x (by simp)⟩
      exact fun z mem => stays z (List.mem_append_left _ mem)
  · rintro (begins | ⟨⟨before, y, after, rfl, begins, stays⟩, unended⟩)
    · exact ⟨ds, x, [], rfl, begins, by simp⟩
    · refine ⟨before, y, after ++ [x], by simp, begins, ?_⟩
      intro z mem
      rcases List.mem_append.mp mem with earlier | last
      · exact stays z earlier
      · cases List.mem_singleton.mp last
        exact unended

theorem filterMap_snoc {α : Type} (f : Deed → Option α) :
    (ds ++ [x]).filterMap f = ds.filterMap f ++ (f x).toList := by
  rw [List.filterMap_append, List.filterMap_cons, List.filterMap_nil]
  cases f x <;> rfl

theorem sinceTeardown_snoc (lasts : x.isTeardown = false) :
    sinceTeardown (ds ++ [x]) = sinceTeardown ds ++ [x] :=
  List.rtakeWhile_concat_pos _ _ _ (by rw [lasts]; rfl)

theorem sinceTeardown_append {es : List Deed} (lasting : ∀ x ∈ es, x.isTeardown = false) :
    sinceTeardown (ds ++ es) = sinceTeardown ds ++ es := by
  induction es using List.reverseRecOn with
  | nil => rw [List.append_nil, List.append_nil]
  | append_singleton es x ih =>
    rw [← List.append_assoc, sinceTeardown_snoc (lasting x (List.mem_append_right _ (.head _))),
      ih fun y mem => lasting y (List.mem_append_left _ mem), List.append_assoc]

theorem sinceTeardown_teardown : sinceTeardown (ds ++ [.teardown]) = [] :=
  List.rtakeWhile_concat_neg _ _ _ (by simp [Deed.isTeardown])

end Lists

namespace Deployment

/-- Moves of the clocks and identifiers drawn by others are not remembered. -/
def deed? (d : Deployment) : Event → Option Deed
  | .call c => some (.call d.now c (d.call c).1)
  | .teardown => some .teardown
  | .draw | .advance _ | .setClock _ | .setWall _ => none

def history (d : Deployment) : List Event → List Deed
  | [] => []
  | e :: es => (d.deed? e).toList ++ (d.handle e).history es

theorem history_induction {Kept : Deployment → List Deed → Prop}
    (step : ∀ d ds e, Kept d ds → Kept (d.handle e) (ds ++ (d.deed? e).toList))
    {d : Deployment} {ds : List Deed} (start : Kept d ds) (es : List Event) :
    Kept (d.after es) (ds ++ d.history es) := by
  induction es generalizing d ds with
  | nil =>
    rw [history, List.append_nil]
    exact start
  | cons e es ih =>
    rw [history, ← List.append_assoc]
    exact ih (step d ds e start)

theorem tables_of_forgotten {d : Deployment} {e : Event} (forgotten : d.deed? e = none) :
    (d.handle e).tables = d.tables := by
  cases e with
  | call c => cases forgotten
  | teardown => cases forgotten
  | draw | setClock time | setWall ms => rfl
  | advance ms =>
    simp only [handle, advance]
    cases d.clocks.manual.addMillis? ms <;> rfl

end Deployment

end ChatSpaces.Service
