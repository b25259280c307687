import ChatSpaces.Proofs.Ident.Order
import ChatSpaces.Proofs.Service.Stages

/-!
# How an action can end

`Yields` relates the tables that an action starts from to the outcomes that it can have, whatever
identifiers it draws: the generator is shared, and others may draw in between. The `yields_` lemmas say
what each part of an action comes to when nothing is refused.
-/

namespace ChatSpaces.Service.Action

variable {α β : Type} {l : List Ident} {t u : Tables} {o : Except Refusal β}

/-- The action can draw the identifiers in turn, leave `u` in the place of `t` and end like this. -/
def Yields : Action α → List Ident → Tables → Except Refusal α → Tables → Prop
  | .done a, l, t, o, u => l = [] ∧ o = .ok a ∧ u = t
  | .refuse r, l, t, o, u => l = [] ∧ o = .error r ∧ u = t
  | .enter rest, l, t, o, u => rest.Yields l t o u
  | .touch f next, l, t, o, u => (next (f t).1).Yields l (f t).2 o u
  | .draw _ next, l, t, o, u => ∃ i m, l = i :: m ∧ (next i).Yields m t o u
  | .commit rest, l, t, o, u => rest.Yields l t o u

@[simp] theorem yields_pure {a x : α} :
    (pure a : Action α).Yields l t (.ok x) u ↔ l = [] ∧ x = a ∧ u = t := by
  change _ ∧ _ ∧ _ ↔ _
  rw [Except.ok.injEq]

@[simp] theorem not_refuse_yields {r : Refusal} {x : α} : ¬ (refuse r : Action α).Yields l t (.ok x) u :=
  fun h => nomatch h.2.1

theorem yields_bind {a : Action α} {k : α → Action β} {y : β} :
    (a >>= k).Yields l t (.ok y) u ↔
      ∃ m n x v, l = m ++ n ∧ a.Yields m t (.ok x) v ∧ (k x).Yields n v (.ok y) u := by
  change (a.bind k).Yields l t (.ok y) u ↔ _
  induction a generalizing l t with
  | done a =>
    constructor
    · exact fun h => ⟨[], l, a, t, rfl, ⟨rfl, rfl, rfl⟩, h⟩
    · rintro ⟨m, n, x, v, rfl, ⟨rfl, eq, rfl⟩, h⟩
      cases eq
      exact h
  | refuse r =>
    constructor
    · exact fun h => nomatch h.2.1
    · rintro ⟨m, n, x, v, -, ⟨-, eq, -⟩, -⟩
      cases eq
  | enter rest ih => exact ih
  | touch f next ih => exact ih (f t).1
  | draw wall next ih =>
    constructor
    · rintro ⟨i, rest, rfl, h⟩
      obtain ⟨m, n, x, v, rfl, first, second⟩ := (ih i).mp h
      exact ⟨i :: m, n, x, v, rfl, ⟨i, m, rfl, first⟩, second⟩
    · rintro ⟨_, n, x, v, rfl, ⟨i, m, rfl, first⟩, second⟩
      exact ⟨i, m ++ n, rfl, (ih i).mpr ⟨m, n, x, v, rfl, first, second⟩⟩
  | commit rest ih => exact ih

theorem yields_map {f : α → β} {a : Action α} {y : β} :
    (f <$> a).Yields l t (.ok y) u ↔ ∃ x, a.Yields l t (.ok x) u ∧ y = f x := by
  rw [← bind_pure_comp, yields_bind]
  constructor
  · rintro ⟨m, n, x, v, rfl, first, second⟩
    obtain ⟨rfl, rfl, rfl⟩ := yields_pure.mp second
    exact ⟨x, by simpa using first, rfl⟩
  · rintro ⟨x, first, rfl⟩
    exact ⟨l, [], x, u, by simp, first, yields_pure.mpr ⟨rfl, rfl, rfl⟩⟩

@[simp] theorem not_fail_yields {f : Failure} {x : α} : ¬ (fail f : Action α).Yields l t (.ok x) u :=
  not_refuse_yields

@[simp] theorem yields_see {look : Tables → α} {x : α} :
    (see look).Yields l t (.ok x) u ↔ l = [] ∧ x = look t ∧ u = t := yields_pure

@[simp] theorem yields_see_bind {look : Tables → α} {k : α → Action β} :
    (see look >>= k).Yields l t o u ↔ (k (look t)).Yields l t o u := Iff.rfl

@[simp] theorem yields_commitUnit {x : Unit} : commitUnit.Yields l t (.ok x) u ↔ l = [] ∧ u = t := by
  change _ ∧ _ ∧ _ ↔ _
  simp

@[simp] theorem yields_demand {look : Tables → Option α} {otherwise : Failure} {x : α} :
    (demand look otherwise).Yields l t (.ok x) u ↔ l = [] ∧ look t = some x ∧ u = t := by
  rw [demand, yields_see_bind]
  cases look t with
  | none => simp
  | some row => simp [eq_comm]

@[simp] theorem yields_write {insertion : Tables → Except Failure Tables} {x : Unit} :
    (write insertion).Yields l t (.ok x) u ↔ l = [] ∧ insertion t = .ok u := by
  rw [write, Yields]
  cases insertion t with
  | error f => simp
  | ok v =>
    change _ ∧ _ ∧ _ ↔ _
    simp [eq_comm]

@[simp] theorem yields_change {edit : Tables → Option Tables} {x : Bool} :
    (change edit).Yields l t (.ok x) u ↔ l = [] ∧ x = (edit t).isSome ∧ u = (edit t).getD t := by
  rw [change, Yields]
  cases edit t <;> exact yields_pure

@[simp] theorem yields_changeOr {edit : Tables → Option Tables} {otherwise : Failure} {x : Unit} :
    (changeOr edit otherwise).Yields l t (.ok x) u ↔ l = [] ∧ edit t = some u := by
  rw [changeOr, yields_bind]
  simp only [yields_change]
  cases edit t with
  | none => simp
  | some v => simp [eq_comm]

@[simp] theorem yields_tally {edit : Tables → Nat × Tables} {n : Nat} :
    (tally edit).Yields l t (.ok n) u ↔ l = [] ∧ n = (edit t).1 ∧ u = (edit t).2 := yields_pure

section Bind

variable {k : Unit → Action β} {y : β}

@[simp] theorem not_fail_bind_yields {f : Failure} {k : α → Action β} :
    ¬ (fail f >>= k).Yields l t (.ok y) u :=
  fun h => nomatch h.2.1

@[simp] theorem yields_openUnit_bind : (openUnit >>= k).Yields l t o u ↔ (k ()).Yields l t o u := Iff.rfl

@[simp] theorem yields_commitUnit_bind : (commitUnit >>= k).Yields l t o u ↔ (k ()).Yields l t o u := Iff.rfl

@[simp] theorem yields_demand_bind {look : Tables → Option α} {otherwise : Failure} {k : α → Action β} :
    (demand look otherwise >>= k).Yields l t (.ok y) u ↔
      ∃ x, look t = some x ∧ (k x).Yields l t (.ok y) u := by
  simp only [yields_bind, yields_demand]
  constructor
  · rintro ⟨_, n, x, _, rfl, ⟨rfl, found, rfl⟩, rest⟩
    exact ⟨x, found, rest⟩
  · rintro ⟨x, found, rest⟩
    exact ⟨[], l, x, t, rfl, ⟨rfl, found, rfl⟩, rest⟩

@[simp] theorem yields_write_bind {insertion : Tables → Except Failure Tables} :
    (write insertion >>= k).Yields l t (.ok y) u ↔
      ∃ v, insertion t = .ok v ∧ (k ()).Yields l v (.ok y) u := by
  simp only [yields_bind, yields_write]
  constructor
  · rintro ⟨_, n, _, v, rfl, ⟨rfl, written⟩, rest⟩
    exact ⟨v, written, rest⟩
  · rintro ⟨v, written, rest⟩
    exact ⟨[], l, (), v, rfl, ⟨rfl, written⟩, rest⟩

@[simp] theorem yields_revise_bind {edit : Tables → Option (α × Tables)} {k : Option α → Action β} :
    (revise edit >>= k).Yields l t o u ↔ match edit t with
      | some (a, v) => (k (some a)).Yields l v o u
      | none => (k none).Yields l t o u := by
  change (revise edit |>.bind k).Yields l t o u ↔ _
  rw [revise, Action.bind, Yields]
  cases edit t <;> exact Iff.rfl

@[simp] theorem yields_change_bind {edit : Tables → Option Tables} {k : Bool → Action β} :
    (change edit >>= k).Yields l t o u ↔ (k (edit t).isSome).Yields l ((edit t).getD t) o u := by
  change (change edit |>.bind k).Yields l t o u ↔ _
  rw [change, Action.bind, Yields]
  cases edit t <;> exact Iff.rfl

@[simp] theorem yields_changeOr_bind {edit : Tables → Option Tables} {otherwise : Failure} :
    (changeOr edit otherwise >>= k).Yields l t (.ok y) u ↔
      ∃ v, edit t = some v ∧ (k ()).Yields l v (.ok y) u := by
  simp only [yields_bind, yields_changeOr]
  constructor
  · rintro ⟨_, n, _, v, rfl, ⟨rfl, changed⟩, rest⟩
    exact ⟨v, changed, rest⟩
  · rintro ⟨v, changed, rest⟩
    exact ⟨[], l, (), v, rfl, ⟨rfl, changed⟩, rest⟩

@[simp] theorem yields_tally_bind {edit : Tables → Nat × Tables} {k : Nat → Action β} :
    (tally edit >>= k).Yields l t o u ↔ (k (edit t).1).Yields l (edit t).2 o u := Iff.rfl

@[simp] theorem yields_freshIdent_bind {c : Context} {k : Ident → Action β} :
    (freshIdent c >>= k).Yields l t o u ↔ ∃ i m, l = i :: m ∧ (k i).Yields m t o u := Iff.rfl

@[simp] theorem yields_check_bind {ps : List Request.Problem} :
    (check ps >>= k).Yields l t (.ok y) u ↔ ps = [] ∧ (k ()).Yields l t (.ok y) u := by
  unfold check
  split
  · next valid =>
    simp only [valid, true_and]
    exact Iff.rfl
  · next problems =>
    simp only [problems, false_and, iff_false]
    exact fun h => nomatch h.2.1

@[simp] theorem yields_permit_bind {v : Option Violation} :
    (permit v >>= k).Yields l t (.ok y) u ↔ v = none ∧ (k ()).Yields l t (.ok y) u := by
  cases v with
  | none =>
    simp only [true_and]
    exact Iff.rfl
  | some v => simp [permit]

end Bind

section Refused

variable {r : Refusal}

theorem refused_bind {a : Action α} {k : α → Action β} (h : (a >>= k).Yields l t (.error r) u) :
    (∃ v, a.Yields l t (.error r) v) ∨
      ∃ m n x v, a.Yields m t (.ok x) v ∧ (k x).Yields n v (.error r) u := by
  change (a.bind k).Yields l t (.error r) u at h
  induction a generalizing l t with
  | done a => exact .inr ⟨[], l, a, t, ⟨rfl, rfl, rfl⟩, h⟩
  | refuse s =>
    obtain ⟨rfl, same, rfl⟩ := h
    cases same
    exact .inl ⟨u, rfl, rfl, rfl⟩
  | enter rest ih => exact ih h
  | touch f next ih => exact ih _ h
  | draw wall next ih =>
    obtain ⟨i, m, rfl, rest⟩ := h
    rcases ih i rest with ⟨v, first⟩ | ⟨m', n, x, v, first, second⟩
    · exact .inl ⟨v, i, m, rfl, first⟩
    · exact .inr ⟨i :: m', n, x, v, ⟨i, m', rfl, first⟩, second⟩
  | commit rest ih => exact ih h

theorem refused_map {f : α → β} {a : Action α} (h : (f <$> a).Yields l t (.error r) u) :
    ∃ v, a.Yields l t (.error r) v := by
  rw [← bind_pure_comp] at h
  rcases refused_bind h with first | ⟨m, n, x, v, -, second⟩
  · exact first
  · cases second.2.1

theorem map_refused {a : Action α} (h : a.Yields l t (.error r) u) (f : α → β) :
    (f <$> a).Yields l t (.error r) u := by
  rw [← bind_pure_comp]
  change (a.bind _).Yields l t (.error r) u
  induction a generalizing l t with
  | done a => exact nomatch h.2.1
  | refuse s =>
    obtain ⟨rfl, same, rfl⟩ := h
    cases same
    exact ⟨rfl, rfl, rfl⟩
  | enter rest ih => exact ih h
  | touch f next ih => exact ih _ h
  | draw wall next ih =>
    obtain ⟨i, m, rfl, rest⟩ := h
    exact ⟨i, m, rfl, ih i rest⟩
  | commit rest ih => exact ih h

@[simp] theorem not_pure_refused {a : α} : ¬ (pure a : Action α).Yields l t (.error r) u :=
  fun h => nomatch h.2.1

@[simp] theorem not_commitUnit_refused : ¬ commitUnit.Yields l t (.error r) u := not_pure_refused

@[simp] theorem refused_fail_bind {f : Failure} {k : α → Action β} :
    (fail f >>= k).Yields l t (.error r) u ↔ l = [] ∧ r = .failed f ∧ u = t := by
  change _ ∧ _ ∧ _ ↔ _
  rw [Except.error.injEq]

@[simp] theorem refused_demand_bind {look : Tables → Option α} {otherwise : Failure} {k : α → Action β} :
    (demand look otherwise >>= k).Yields l t (.error r) u ↔
      (look t = none ∧ l = [] ∧ r = .failed otherwise ∧ u = t) ∨
        ∃ x, look t = some x ∧ (k x).Yields l t (.error r) u := by
  rw [demand, bind_assoc, yields_see_bind]
  cases look t with
  | none => simp
  | some row => simp

@[simp] theorem refused_write_bind {insertion : Tables → Except Failure Tables} {k : Unit → Action β} :
    (write insertion >>= k).Yields l t (.error r) u ↔
      (∃ f, insertion t = .error f ∧ l = [] ∧ r = .failed f ∧ u = t) ∨
        ∃ v, insertion t = .ok v ∧ (k ()).Yields l v (.error r) u := by
  change (write insertion |>.bind k).Yields l t (.error r) u ↔ _
  rw [write, Action.bind, Yields]
  cases insertion t with
  | error f =>
    change _ ∧ _ ∧ _ ↔ _
    simp
  | ok v => simp [Action.bind]

@[simp] theorem refused_changeOr_bind {edit : Tables → Option Tables} {otherwise : Failure}
    {k : Unit → Action β} :
    (changeOr edit otherwise >>= k).Yields l t (.error r) u ↔
      (edit t = none ∧ l = [] ∧ r = .failed otherwise ∧ u = t) ∨
        ∃ v, edit t = some v ∧ (k ()).Yields l v (.error r) u := by
  rw [changeOr, bind_assoc, yields_change_bind]
  cases edit t with
  | none => simp
  | some v => simp

@[simp] theorem refused_check_bind {ps : List Request.Problem} {k : Unit → Action β} :
    (check ps >>= k).Yields l t (.error r) u ↔
      (ps ≠ [] ∧ l = [] ∧ r = Request.refusal ps ∧ u = t) ∨ (ps = [] ∧ (k ()).Yields l t (.error r) u) := by
  unfold check
  by_cases valid : ps = []
  · simp [valid]
  · rw [if_neg valid]
    change _ ∧ _ ∧ _ ↔ _
    simp [valid]

@[simp] theorem refused_permit_bind {v : Option Violation} {k : Unit → Action β} :
    (permit v >>= k).Yields l t (.error r) u ↔
      (∃ x, v = some x ∧ l = [] ∧ r = .failed (.violation x) ∧ u = t) ∨
        (v = none ∧ (k ()).Yields l t (.error r) u) := by
  cases v with
  | none => simp [permit]
  | some x => simp [permit]

end Refused

section Run

variable {p q : Stage}

def readings : Action α → Work → List Int
  | .done _, _ => []
  | .refuse _, _ => []
  | .enter rest, w => rest.readings { w with tables := w.committed }
  | .touch f next, w => (next (f w.tables).1).readings { w with tables := (f w.tables).2 }
  | .draw wall next, w => wall :: (next (w.ids.next wall).1).readings { w with ids := (w.ids.next wall).2 }
  | .commit rest, w => rest.readings { w with committed := w.tables }

/-- An action taken at once ends in one of the ways in which it can end, with the identifiers that its generator
makes. -/
theorem yields_of_run {a : Action α} (staged : a.Staged p q) (w : Work)
    (unchanged : p = .before → w.tables = w.committed) :
    match a.run w with
    | .ok x v => a.Yields (w.ids.draws (a.readings w)) w.tables (.ok x) v.tables ∧
        v.ids = w.ids.afterDraws (a.readings w)
    | .error r v => a.Yields (w.ids.draws (a.readings w)) w.tables (.error r) v.tables ∧
        v.ids = w.ids.afterDraws (a.readings w) := by
  induction a generalizing p w with
  | done a => exact ⟨⟨rfl, rfl, rfl⟩, rfl⟩
  | refuse r => exact ⟨⟨rfl, rfl, rfl⟩, rfl⟩
  | enter rest ih =>
    obtain ⟨committed, tables, ids⟩ := w
    obtain rfl : tables = committed := unchanged staged.1
    exact ih staged.2 _ (fun first => by cases first)
  | touch f next ih => exact ih _ (staged.2 _) _ (fun first => by cases first)
  | draw wall next ih =>
    have later := ih (w.ids.next wall).1 (staged.2 _) { w with ids := (w.ids.next wall).2 } unchanged
    rw [run]
    cases ends : (next (w.ids.next wall).1).run { w with ids := (w.ids.next wall).2 } with
    | ok x v =>
      rw [ends] at later
      exact ⟨⟨_, _, rfl, later.1⟩, later.2⟩
    | error r v =>
      rw [ends] at later
      exact ⟨⟨_, _, rfl, later.1⟩, later.2⟩
  | commit rest ih => exact ih staged.2 _ (fun first => by cases first)

theorem run_of_yields {a : Action α} (staged : a.Staged p q) {o : Except Refusal α} {u : Tables} (w : Work)
    (unchanged : p = .before → w.tables = w.committed) (h : a.Yields [] w.tables o u) :
    ∃ v, a.run w = match o with
      | .ok x => .ok x v
      | .error r => .error r v := by
  induction a generalizing p w with
  | done a =>
    obtain ⟨-, rfl, -⟩ := h
    exact ⟨w, rfl⟩
  | refuse r =>
    obtain ⟨-, rfl, -⟩ := h
    exact ⟨w, rfl⟩
  | enter rest ih =>
    obtain ⟨committed, tables, ids⟩ := w
    obtain rfl : tables = committed := unchanged staged.1
    exact ih staged.2 _ (fun first => by cases first) h
  | touch f next ih => exact ih _ (staged.2 _) _ (fun first => by cases first) h
  | draw wall next ih =>
    obtain ⟨i, m, drawn, -⟩ := h
    cases drawn
  | commit rest ih => exact ih staged.2 _ (fun first => by cases first) h

end Run

end ChatSpaces.Service.Action
