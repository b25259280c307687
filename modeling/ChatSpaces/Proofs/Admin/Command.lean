import ChatSpaces.Admin.Command
import ChatSpaces.Proofs.Service.Compaction
import ChatSpaces.Proofs.Service.Startup

/-!
# What commands leave of a store

A compaction sweeps the restraints out that have ended and tells how many they were. The next one is told of no
restraint twice: it counts those that have ended in between, and none if the clock has gone back.
-/

namespace ChatSpaces

open Time (Instant)

theorem Table.size_sub_size_filter {κ α : Type} [Key κ] (t : Table κ α) (p : α → Bool) :
    t.size - (t.filter fun _ a => p a).size = t.rows.countP fun a => !p a := by
  have rows_length (u : Table κ α) : u.size = u.rows.length := (List.length_map _).symm
  have split := List.length_eq_countP_add_countP (fun a => p a) (l := t.rows)
  rw [rows_length, rows_length, Table.rows_filter, ← List.countP_eq_length_filter, split, Nat.add_sub_cancel_left]
  exact List.countP_congr (by simp)

namespace Restraint

variable {r : Restraint} {T U : Instant}

/-- The restraint has an expiry, and that is not after the instant. -/
def endsBy (r : Restraint) (T : Instant) : Bool := r.expiresAt.any (· ≤ T)

def endsWithin (r : Restraint) (T U : Instant) : Bool := r.expiresAt.any fun e => T < e ∧ e ≤ U

theorem endsBy_eq_false_iff : r.endsBy T = false ↔ r.ActiveAt T := by
  obtain ⟨_, _, _, expiry, _, _, _⟩ := r
  cases expiry with
  | none => simp [endsBy, ActiveAt]
  | some e => simp [endsBy, ActiveAt, ← Instant.not_lt]

theorem endsBy_eq_endsWithin (pending : r.endsBy T = false) : r.endsBy U = r.endsWithin T U := by
  unfold endsBy endsWithin at *
  cases expiry : r.expiresAt with
  | none => rfl
  | some e =>
    rw [expiry] at pending
    have after : T < e := by
      by_contra before
      simp [(Instant.not_lt _ _).mp before] at pending
    simp [after]

theorem endsBy_of_le (pending : r.endsBy T = false) (back : U ≤ T) : r.endsBy U = false :=
  endsBy_eq_false_iff.mpr ((endsBy_eq_false_iff.mp pending).of_le back)

end Restraint

namespace Tables

variable {t u v : Tables} {n m : Nat} {T U : Instant}

/-- The restraints that have ended at the instant, and no others, have been taken out, and this is their number. No
other table has changed. -/
structure Swept (T : Instant) (t : Tables) (removed : Nat) (u : Tables) : Prop where
  restraints : ∀ k r, u.restraints.get? k = some r ↔ t.restraints.get? k = some r ∧ r.endsBy T = false
  others : u = { t with restraints := u.restraints }
  counted : removed = t.restraints.rows.countP (·.endsBy T)

theorem swept_removeExpired (t : Tables) (T : Instant) : t.Swept T (t.removeExpired T).1 (t.removeExpired T).2 where
  restraints k r := by
    rw [removeExpired, Table.get?_filter, Option.filter_eq_some_iff, decide_eq_true_eq, Restraint.endsBy_eq_false_iff]
  others := rfl
  counted := by
    rw [removeExpired, Table.size_sub_size_filter]
    refine List.countP_congr fun r _ => ?_
    rw [← Bool.not_eq_false (r.endsBy T), Restraint.endsBy_eq_false_iff, Bool.not_eq_true', decide_eq_false_iff_not]

namespace Swept

theorem pending (swept : t.Swept T n u) {r : Restraint} (left : r ∈ u.restraints.rows) : r.endsBy T = false := by
  obtain ⟨k, found⟩ := Table.mem_rows_iff.mp left
  exact ((swept.restraints k r).mp found).2

/-- What a second sweep takes out has ended since the first. -/
theorem counted_since (swept : t.Swept T n u) (again : u.Swept U m v) :
    m = u.restraints.rows.countP (·.endsWithin T U) := by
  rw [again.counted]
  refine List.countP_congr fun r left => ?_
  rw [Restraint.endsBy_eq_endsWithin (swept.pending left)]

theorem counted_back (swept : t.Swept T n u) (again : u.Swept U m v) (back : U ≤ T) : m = 0 := by
  rw [again.counted, List.countP_eq_zero]
  intro r left ended
  rw [Restraint.endsBy_of_le (swept.pending left) back] at ended
  cases ended

end Swept

end Tables

namespace Admin.Command

open Service (Clocks Wiring)

variable {s : Settings}

theorem perform_compact (sound : s.fault? = none) (t : Tables) (clocks : Clocks) :
    perform .compact s t clocks =
      (.ok (.compacted (t.removeExpired clocks.now).1), (t.removeExpired clocks.now).2) := by
  obtain ⟨w, wired, -⟩ := Wiring.exists_of_fault?_eq_none sound
  simp only [perform, wired, Service.Deployment.call_purgeExpired]
  rfl

/-- Whatever is stored, with settings that have been taken: provisioning changes nothing; a teardown that is not
confirmed fails and changes nothing; one that is confirmed leaves the tables empty, the first as well as the second
time. A compaction never fails. It takes out the restraints that have ended by the time of the clock, tells their
number and changes no other table; what a second one tells is the number of those that have ended since, and none
if its time is not later than that of the first. -/
theorem store_after_commands {d : Document} (accepted : Settings.ofTree d = .ok s) (t : Tables) (clocks : Clocks) :
    perform .provision s t clocks = (.ok .provisioned, t) ∧
    perform (.teardown false) s t clocks = (.error .unconfirmed, t) ∧
    (perform (.teardown true) s t clocks = (.ok .tornDown, ∅) ∧
      perform (.teardown true) s ∅ clocks = (.ok .tornDown, ∅)) ∧
    ∃ removed u, perform .compact s t clocks = (.ok (.compacted removed), u) ∧ t.Swept clocks.now removed u ∧
      ∀ later : Clocks, ∃ more v, perform .compact s u later = (.ok (.compacted more), v) ∧
        u.Swept later.now more v ∧
        (clocks.now ≤ later.now → more = u.restraints.rows.countP (·.endsWithin clocks.now later.now)) ∧
        (later.now ≤ clocks.now → more = 0) := by
  have sound : s.fault? = none := (Settings.ofTree_eq_ok_iff.mp accepted).2
  have first := t.swept_removeExpired clocks.now
  refine ⟨rfl, rfl, ⟨rfl, rfl⟩, _, _, perform_compact sound t clocks, first, fun later => ?_⟩
  have second := (t.removeExpired clocks.now).2.swept_removeExpired later.now
  exact ⟨_, _, perform_compact sound _ later, second, fun _ => first.counted_since second, first.counted_back second⟩

/-- At one second a mute that ends then is taken out; one that ends two milliseconds later and a ban for good are left.
A millisecond earlier there is nothing more to take out, and two milliseconds later the other mute is. -/
theorem store_after_commands_muted :
    let tree : Document := .record [
      ("app", .record [("name", .text "spaces"), ("env", .text "production")]),
      ("database", .record [("url", .text "memory"), ("max_connections", .whole 2), ("min_connections", .whole 2),
        ("acquire_timeout_secs", .whole 5)]),
      ("snowflake", .record [("worker_id", .whole 1023)]),
      ("moderation", .record [("posting_blocked_kinds", .texts [])]),
      ("telemetry", .record [("level", .text "info"), ("json", .bool false)])]
    let restrain (user : Ident) (kind : Restraint.Kind) (expiry : Option Instant) : Service.Deployment.Event :=
      .call (.restrain (.space ⟨4⟩) user ⟨1⟩ ⟨kind, expiry, none⟩)
    let t := (Service.Deployment.blank.after [.call (.createUser ⟨"ann", none⟩), .call (.createUser ⟨"bob", none⟩),
      .call (.createUser ⟨"cem", none⟩), .call (.createSpace ⟨1⟩ ⟨"home", none⟩), restrain ⟨1⟩ .ban none,
      restrain ⟨2⟩ .mute (some (.ofMillis 1000)), restrain ⟨3⟩ .mute (some (.ofMillis 1002))]).tables
    let clocks (ms : Int) : Clocks := ⟨ms, .noon, true⟩
    ∃ s u, Settings.ofTree tree = .ok s ∧ perform .compact s t (clocks 1000) = (.ok (.compacted 1), u) ∧
      u.restraint? (.space ⟨4⟩) ⟨2⟩ = none ∧ u.users = t.users ∧
      (perform .compact s u (clocks 999)).1 = .ok (.compacted 0) ∧
      (perform .compact s u (clocks 1002)).1 = .ok (.compacted 1) := by
  intro tree restrain t clocks
  let s : Settings := ⟨"spaces", .production, "memory", 2, 2, 5, 1023, [], "info", false⟩
  have accepted : Settings.ofTree tree = .ok s := Settings.ofTree_eq_ok_iff.mpr ⟨by decide, by decide⟩
  have sound : s.fault? = none := (Settings.ofTree_eq_ok_iff.mp accepted).2
  obtain ⟨-, -, -, removed, u, first, swept, second⟩ := store_after_commands accepted t (clocks 1000)
  have left : u = (t.removeExpired (clocks 1000).now).2 :=
    (Prod.mk.inj (first.symm.trans (perform_compact sound t (clocks 1000)))).2
  have one : removed = 1 := swept.counted.trans (by decide +kernel)
  obtain ⟨none, _, back, -, -, nothing⟩ := second (clocks 999)
  obtain ⟨more, _, onward, -, since, -⟩ := second (clocks 1002)
  have another : more = 1 := (since (by decide)).trans (by rw [left]; decide +kernel)
  have gone : u.restraint? (.space ⟨4⟩) ⟨2⟩ = .none := by rw [left]; decide +kernel
  have kept : u.users = t.users := by rw [swept.others]
  rw [one] at first
  rw [another] at onward
  rw [nothing (by decide)] at back
  exact ⟨s, u, accepted, first, gone, kept, congrArg Prod.fst back, congrArg Prod.fst onward⟩

end Admin.Command

end ChatSpaces
