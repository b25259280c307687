import ChatSpaces.Proofs.Service.History
import ChatSpaces.Proofs.Tables.Growth

/-!
# Records

A record says of some tables which deeds, one after the other, have made them of others. Each call is taken at
once here, in a context of its own; a record knows nothing of the time between two calls, of other clients or of
the clocks.
-/

namespace ChatSpaces.Service

/-- What a deed makes of the tables. A call that is refused is so for what it finds there. -/
inductive Deed.Leads (t : Tables) : Deed → Tables → Prop
  | answered {c call l a u} (effect : Effect c t call l a u) : Leads t (.call c.now call (.ok a)) u
  | refused {c call l r v} (yields : (call.perform c).Yields l t (.error r) v) :
      Leads t (.call c.now call (.error r)) t
  | teardown : Leads t .teardown ∅

inductive Record (t : Tables) : List Deed → Tables → Prop
  | nil : Record t [] t
  | snoc {ds x u v} : Record t ds u → x.Leads u v → Record t (ds ++ [x]) v

variable {t u : Tables} {ds : List Deed} {x : Deed}

theorem Deed.Leads.served (leads : x.Leads t u) (before : Served t) : Served u := by
  cases leads with
  | answered effect => exact .answer before effect
  | refused yields => exact before
  | teardown => exact .empty

theorem Record.served (record : Record t ds u) (before : Served t) : Served u := by
  induction record with
  | nil => exact before
  | snoc _ leads ih => exact leads.served ih

theorem Deed.Leads.persists (leads : x.Leads t u) (lasts : x.isTeardown = false) : t.Persists u := by
  cases leads with
  | answered effect => exact .changes effect.changes
  | refused yields => exact .refl t
  | teardown => cases lasts

theorem Record.throughout {motive : Tables → List Deed → Prop} (first : motive t [])
    (step : ∀ {u v ds x}, Record t ds u → motive u ds → x.Leads u v → x.isTeardown = false → motive v (ds ++ [x]))
    (record : Record t ds u) (lasting : ∀ x ∈ ds, x.isTeardown = false) : motive u ds := by
  induction record with
  | nil => exact first
  | snoc before leads ih =>
    have earlier := ih fun y mem => lasting y (List.mem_append_left _ mem)
    exact step before earlier leads (lasting _ (List.mem_append_right _ (.head _)))

theorem Record.persists (record : Record t ds u) (lasting : ∀ x ∈ ds, x.isTeardown = false) : t.Persists u :=
  record.throughout (motive := fun u _ => t.Persists u) (.refl t)
    (fun _ earlier leads lasts => earlier.trans (leads.persists lasts)) lasting

theorem Deed.Leads.endures (leads : x.Leads t u) (lasts : x.isTeardown = false) : t.Endures u :=
  (leads.persists lasts).endures

theorem Record.endures (record : Record t ds u) (lasting : ∀ x ∈ ds, x.isTeardown = false) : t.Endures u :=
  (record.persists lasting).endures

/-- What holds of empty tables before anything is done, and is kept by every deed but a teardown, holds of the
tables and the deeds since the last teardown. -/
theorem Record.since {motive : Tables → List Deed → Prop} (empty : motive ∅ [])
    (step : ∀ {t u ds x}, Served t → motive t ds → x.Leads t u → x.isTeardown = false → motive u (ds ++ [x]))
    (record : Record ∅ ds t) : motive t (sinceTeardown ds) := by
  induction record with
  | nil => exact empty
  | @snoc ds x u v before leads ih =>
    cases lasts : x.isTeardown with
    | false =>
      rw [sinceTeardown_snoc lasts]
      exact step (before.served .empty) ih leads lasts
    | true =>
      cases leads with
      | teardown =>
        rw [sinceTeardown_teardown]
        exact empty
      | _ => cases lasts

end ChatSpaces.Service
