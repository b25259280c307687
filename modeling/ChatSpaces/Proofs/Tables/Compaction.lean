import ChatSpaces.Proofs.Table
import ChatSpaces.Proofs.Tables.Change

/-!
# Compacted tables

Tables from which some of the restraints that are over at an instant have been dropped. Nothing but the
operations on restraints can tell them from the others, and these answer the same for every later time.
-/

namespace ChatSpaces

open Time (Instant)

theorem Table.rows_filter {κ α : Type} [Key κ] (t : Table κ α) (p : α → Bool) :
    (t.filter fun _ a => p a).rows = t.rows.filter p := by
  rw [Table.rows, Table.rows, Table.filter, List.filter_map]
  rfl

namespace Tables

/-- `Compacts T t u`: the tables `u` are `t` without some of the restraints that are over at `T`. -/
inductive Compacts (T : Instant) (t : Tables) : Tables → Prop
  | drop (kept : Table (Scope × Ident) Restraint)
      (lapsed : ∀ k, kept.get? k = t.restraints.get? k ∨
        (kept.get? k = none ∧ ∃ r, t.restraints.get? k = some r ∧ ¬ r.ActiveAt T)) :
      Compacts T t { t with restraints := kept }

variable {T : Instant} {t u : Tables}

theorem Compacts.refl : Compacts T t t := .drop t.restraints fun _ => .inl rfl

theorem Compacts.look_eq {α : Type} {look : Tables → α}
    (blind : ∀ t kept, look { t with restraints := kept } = look t) (h : Compacts T t u) : look u = look t := by
  cases h with
  | drop kept lapsed => exact blind t kept

theorem Compacts.insert (h : Compacts T t u) (k : Scope × Ident) (r : Restraint) :
    Compacts T { t with restraints := t.restraints.insert k r }
      { u with restraints := u.restraints.insert k r } := by
  cases h with
  | drop kept lapsed =>
    refine .drop (kept.insert k r) fun l => ?_
    rw [Table.get?_insert, Table.get?_insert]
    by_cases same : l = k
    · rw [if_pos same, if_pos same]
      exact .inl rfl
    · rw [if_neg same, if_neg same]
      exact lapsed l

theorem Compacts.filter (h : Compacts T t u) (p : Scope × Ident → Restraint → Bool) :
    Compacts T { t with restraints := t.restraints.filter p } { u with restraints := u.restraints.filter p } := by
  cases h with
  | drop kept lapsed =>
    refine .drop (kept.filter p) fun k => ?_
    rw [Table.get?_filter, Table.get?_filter]
    rcases lapsed k with same | ⟨gone, r, found, past⟩
    · rw [same]
      exact .inl rfl
    · rw [gone, found]
      cases passes : p k r with
      | true => exact .inr ⟨rfl, r, by rw [Option.filter_some, if_pos passes], past⟩
      | false => exact .inl (by rw [Option.filter_none, Option.filter_some, passes]; rfl)

theorem Compacts.filter_restraint? (h : Compacts T t u) {p : Restraint → Bool}
    (pending : ∀ r, p r = true → r.ActiveAt T) (scope : Scope) (user : Ident) :
    (u.restraint? scope user).filter p = (t.restraint? scope user).filter p := by
  cases h with
  | drop kept lapsed =>
    unfold restraint?
    rcases lapsed (scope, user) with same | ⟨gone, r, found, past⟩
    · rw [same]
    · have fails : p r = false := by
        apply Bool.eq_false_iff.mpr
        exact fun passes => past (pending r passes)
      rw [gone, found, Option.filter_none, Option.filter_some, fails]
      rfl

theorem Compacts.filter_restraintsIn (h : Compacts T t u) {p : Restraint → Bool}
    (pending : ∀ r, p r = true → r.ActiveAt T) (scope : Scope) :
    (u.restraintsIn scope).filter p = (t.restraintsIn scope).filter p := by
  have same : (u.restraints.filter fun _ => p) = t.restraints.filter fun _ => p := by
    apply Table.ext
    intro k
    rw [Table.get?_filter, Table.get?_filter]
    exact h.filter_restraint? pending k.1 k.2
  have swap (t : Tables) :
      (t.restraintsIn scope).filter p = ((t.restraints.filter fun _ => p).rows).filter (·.scope = scope) := by
    simp only [Table.rows_filter, restraintsIn, List.filter_filter, Bool.and_comm]
  rw [swap, swap, same]

theorem Compacts.removeRestraint? (h : Compacts T t u) (scope : Scope) (user : Ident) :
    Compacts T ((t.removeRestraint? scope user).getD t) ((u.removeRestraint? scope user).getD u) := by
  rw [getD_removeRestraint?, getD_removeRestraint?]
  exact h.filter _

theorem Compacts.removeExpired (h : Compacts T t u) (now : Instant) :
    Compacts T (t.removeExpired now).2 (u.removeExpired now).2 := h.filter _

theorem compacts_removeExpired (t : Tables) (T : Instant) : Compacts T t (t.removeExpired T).2 := by
  refine .drop _ fun k => ?_
  rw [Table.get?_filter]
  cases found : t.restraints.get? k with
  | none => exact .inl rfl
  | some r =>
    by_cases active : r.ActiveAt T
    · exact .inl (by simp [active])
    · exact .inr ⟨by simp [active], r, rfl, active⟩

namespace Operation

def apart : Operation → Bool
  | putRestraint .. | findRestraint .. | findRestraintsIn .. | removeRestraint .. | removeExpired .. => false
  | _ => true

theorem flagged_apart {β : Type} (t : Tables) (kept : Table (Scope × Ident) Restraint) (changed : Option β)
    (put : β → Tables) :
    (.ok (flagged { t with restraints := kept } (changed.map fun b => { put b with restraints := kept })) :
        Except Failure (Answer × Tables)) =
      (Except.ok (flagged t (changed.map put))).map fun x => (x.1, { x.2 with restraints := kept }) := by
  cases changed <;> rfl

theorem apply_of_apart {o : Operation} (apart : o.apart = true) (t : Tables)
    (kept : Table (Scope × Ident) Restraint) :
    o.apply { t with restraints := kept } =
      (o.apply t).map fun x => (x.1, { x.2 with restraints := kept }) := by
  cases o with
  | putRestraint | findRestraint | findRestraintsIn | removeRestraint | removeExpired => cases apart
  | insertUser | insertSpace | insertChannel | insertSpaceMember | insertChannelMember | insertMessage
  | insertMedia =>
    simp only [apply, Tables.insertUser, Tables.insertSpace, Tables.insertChannel, Tables.insertSpaceMember,
      Tables.insertChannelMember, Tables.insertMessage, Tables.insertMedia]
    repeat' split
    all_goals rfl
  | updateSpace s => exact flagged_apart t kept (t.spaces.amend? s.id _) ({ t with spaces := · })
  | updateChannel c => exact flagged_apart t kept (t.channels.amend? c.id _) ({ t with channels := · })
  | updateMessage m => exact flagged_apart t kept (t.messages.amend? m.id _) ({ t with messages := · })
  | deleteSpace id time => exact flagged_apart t kept (t.spaces.bury? id time) ({ t with spaces := · })
  | deleteChannel id time => exact flagged_apart t kept (t.channels.bury? id time) ({ t with channels := · })
  | deleteMessage id time => exact flagged_apart t kept (t.messages.bury? id time) ({ t with messages := · })
  | setRole space user role =>
    simp only [apply, Tables.setRole?]
    cases t.spaceMembers.get? (space, user) <;> rfl
  | removeSpaceMember space user =>
    exact flagged_apart t kept (t.spaceMembers.erase? (space, user)) ({ t with spaceMembers := · })
  | removeChannelMember channel user =>
    exact flagged_apart t kept (t.channelMembers.erase? (channel, user)) ({ t with channelMembers := · })
  | _ => rfl

/-- Both fail alike, or both answer the same and leave compacted tables. -/
inductive Parallel (T : Instant) : Except Failure (Answer × Tables) → Except Failure (Answer × Tables) → Prop
  | error (f : Failure) : Parallel T (.error f) (.error f)
  | ok (a : Answer) {t u : Tables} (h : Compacts T t u) : Parallel T (.ok (a, t)) (.ok (a, u))

def Neutral (T : Instant) (o : Operation) : Prop :=
  ∀ t u, Compacts T t u → Parallel T (o.apply t) (o.apply u)

theorem neutral_of_apart {o : Operation} (apart : o.apart = true) : o.Neutral T := by
  rintro t _ ⟨kept, lapsed⟩
  have same := apply_of_apart apart t t.restraints
  rw [apply_of_apart apart t kept]
  cases applied : o.apply t with
  | error f => exact .error f
  | ok x =>
    obtain ⟨a, v⟩ := x
    rw [applied] at same
    have unchanged : v = { v with restraints := t.restraints } := congrArg Prod.snd (Except.ok.inj same)
    refine .ok a (.drop kept ?_)
    rw [unchanged]
    exact lapsed

theorem neutral_putRestraint (r : Restraint) : (putRestraint r).Neutral T := by
  intro t u h
  have users : u.users.contains r.user = t.users.contains r.user := by
    cases h
    rfl
  simp only [apply, Tables.putRestraint, users]
  cases t.users.contains r.user with
  | false => exact .error _
  | true => exact .ok _ (h.insert _ r)

end Operation

end Tables

end ChatSpaces
