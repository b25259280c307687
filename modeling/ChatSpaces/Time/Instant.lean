import ChatSpaces.Time.Calendar

/-!
# Instants

A point in time in UTC, to the nanosecond. A leap second is kept as the second before it with more
than a thousand million nanoseconds, so it comes after every other point of that second and before
the next one.
-/

namespace ChatSpaces.Time

/-- Seconds from 1970-01-01T00:00:00 and nanoseconds within the second. -/
structure Instant where
  seconds : Int
  nanos : Nat
  nanos_lt : nanos < 2000000000 := by decide
deriving DecidableEq, Repr

namespace Instant

def rank (i : Instant) : Int := i.seconds * 2000000000 + i.nanos

instance : LT Instant := ⟨fun i j => i.rank < j.rank⟩

instance : LE Instant := ⟨fun i j => i.rank ≤ j.rank⟩

instance (i j : Instant) : Decidable (i < j) := inferInstanceAs (Decidable (i.rank < j.rank))

instance (i j : Instant) : Decidable (i ≤ j) := inferInstanceAs (Decidable (i.rank ≤ j.rank))

theorem not_lt (i j : Instant) : ¬ i < j ↔ j ≤ i := Int.not_lt

theorem lt_of_lt_of_le {i j k : Instant} (h : i < j) (g : j ≤ k) : i < k := Int.lt_of_lt_of_le h g

theorem lt_of_le_of_lt {i j k : Instant} (h : i ≤ j) (g : j < k) : i < k := Int.lt_of_le_of_lt h g

theorem le_refl (i : Instant) : i ≤ i := Int.le_refl _

theorem le_trans {i j k : Instant} (h : i ≤ j) (g : j ≤ k) : i ≤ k := Int.le_trans h g

/-- An instant from seconds and nanoseconds; nanoseconds beyond a leap second are dropped. -/
def ofSeconds (seconds : Int) (nanos : Nat) : Instant :=
  ⟨seconds, nanos % 2000000000, Nat.mod_lt _ (by decide)⟩

def ofMillis (ms : Int) : Instant := ofSeconds (ms / 1000) ((ms % 1000).toNat * 1000000)

def noon : Instant := ⟨1717243200, 0, by decide⟩

def day (i : Instant) : Int := i.seconds / 86400

def InRange (i : Instant) : Prop := firstDay ≤ i.day ∧ i.day ≤ lastDay

instance (i : Instant) : Decidable i.InRange := inferInstanceAs (Decidable (_ ∧ _))

/-- The sum of a second with its nanoseconds and a span of whole seconds and nanoseconds, carried. -/
def carried (seconds nanos : Int) : Instant :=
  ofSeconds (seconds + nanos / 1000000000) (nanos % 1000000000).toNat

/-- The instant `ms` milliseconds away; `none` where the calendar ends. Seconds and nanoseconds of the
span have one sign. A leap second is left only by a span that leads out of it: forward it counts as
the second it extends, backward as the second after. -/
def addMillis? (i : Instant) (ms : Int) : Option Instant :=
  let secs := ms.tdiv 1000
  let frac := ms.tmod 1000 * 1000000
  let sum :=
    if i.nanos < 1000000000 then carried (i.seconds + secs) (i.nanos + frac)
    else if 0 < secs ∨ (0 < frac ∧ 2000000000 ≤ i.nanos + frac) then
      carried (i.seconds + secs) (i.nanos - 1000000000 + frac)
    else if secs < 0 then carried (i.seconds + 1 + secs) (i.nanos - 1000000000 + frac)
    else ofSeconds i.seconds (i.nanos + frac).toNat
  if sum.InRange then some sum else none

end Instant

end ChatSpaces.Time
