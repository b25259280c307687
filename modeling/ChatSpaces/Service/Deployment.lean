import ChatSpaces.Service.Call
import ChatSpaces.Settings

/-!
# A running service

Committed tables, the generator that all calls share, the clocks and the policy. Calls run one after the
other, each in a unit of work of its own. What a call has committed is kept; its working copy is dropped when
it ends. Identifiers that a refused call drew stay used.
-/

namespace ChatSpaces.Service

open Time (Instant)

/-- Two clocks. Identifiers are always made by the wall clock; the services go by one of the two. -/
structure Clocks where
  /-- Milliseconds from 1970. -/
  wall : Int
  manual : Instant
  followWall : Bool
deriving DecidableEq

def Clocks.now (c : Clocks) : Instant := if c.followWall then .ofMillis c.wall else c.manual

structure Wiring where
  policy : Policy
  ids : Generator
deriving DecidableEq

/-- Why services do not start: they are refused, or a rule of the caller is broken. -/
inductive Wiring.Fault where
  | refused (r : Refusal)
  | crashed (c : Crash)
deriving DecidableEq

namespace Wiring

def noStore : Refusal := .invalid "store is required"

def ofWorker (policy : Policy) (worker : Nat) : Except Fault Wiring :=
  match Generator.ofWorker? worker with
  | none => .error (.crashed .workerOutOfRange)
  | some ids => .ok ⟨policy, ids⟩

/-- The wiring that settings describe, checked or not. -/
def ofSettings (s : Settings) : Except Fault Wiring :=
  match s.policy with
  | .error fault => .error (.refused (.invalid fault.message))
  | .ok policy => ofWorker policy s.worker

end Wiring

structure Deployment where
  tables : Tables
  ids : Generator
  clocks : Clocks
  policy : Policy
deriving DecidableEq

namespace Deployment

def start (w : Wiring) (clocks : Clocks) : Deployment := ⟨∅, w.ids, clocks, w.policy⟩

def now (d : Deployment) : Instant := d.clocks.now

def context (d : Deployment) : Context := ⟨d.policy, d.now, d.clocks.wall⟩

def work (d : Deployment) : Work := ⟨d.tables, d.tables, d.ids⟩

def keep (d : Deployment) (w : Work) : Deployment := { d with tables := w.committed, ids := w.ids }

def call (d : Deployment) (c : Call) : Except Refusal Answer × Deployment :=
  match (c.perform d.context).run d.work with
  | .ok answer work => (.ok answer, d.keep work)
  | .error refusal work => (.error refusal, d.keep work)

def freshIdent (d : Deployment) : Ident × Deployment :=
  let made := d.ids.next d.clocks.wall
  (made.1, { d with ids := made.2 })

/-- Moves the manual clock, unless it would leave the calendar. -/
def advance (d : Deployment) (ms : Int) : Except Crash Deployment :=
  match d.clocks.manual.addMillis? ms with
  | none => .error .timeOutOfRange
  | some manual => .ok { d with clocks := { d.clocks with manual := manual } }

def setClock (d : Deployment) (time : Instant) : Deployment :=
  { d with clocks := { d.clocks with manual := time } }

def setWall (d : Deployment) (ms : Int) : Deployment :=
  { d with clocks := { d.clocks with wall := ms } }

/-- Empties the tables; identifiers go on. -/
def teardown (d : Deployment) : Deployment := { d with tables := ∅ }

def describe (d : Deployment) : String :=
  "ServiceContext \x7b store: \"dyn Store\", worker_id: " ++ toString d.ids.worker.val
    ++ ", moderation: ModerationPolicy \x7b posting_blocked: ["
    ++ ", ".intercalate (d.policy.denying.map (·.title)) ++ "] \x7d, .. \x7d"

end Deployment

end ChatSpaces.Service
