import ChatSpaces.Service.Deployment
import ChatSpaces.Store

/-!
# Administration of a store

A store is provisioned, torn down or compacted. Tearing down has to be confirmed. Compaction is done by
services of its own, which go by the wall clock. A command that is not carried out leaves the store as it was.
-/

namespace ChatSpaces.Admin

inductive Command where
  | provision
  | teardown (confirmed : Bool)
  | compact
deriving DecidableEq, Repr

inductive Outcome where
  | provisioned
  | tornDown
  | compacted (removed : Nat)
deriving DecidableEq, Repr

inductive Fault where
  | unconfirmed
  | refused (r : Refusal)
  | crashed (c : Crash)
deriving DecidableEq

def Fault.message : Fault → String
  | .unconfirmed => "teardown drops every table; re-run with --yes"
  | .refused r => r.message
  | .crashed c => c.message

def Fault.ofWiring : Service.Wiring.Fault → Fault
  | .refused r => .refused r
  | .crashed c => .crashed c

namespace Command

def name : Command → String
  | .provision => "provision"
  | .teardown _ => "teardown"
  | .compact => "compact"

def servicesOver (t : Tables) (w : Service.Wiring) (clocks : Service.Clocks) : Service.Deployment :=
  ⟨t, w.ids, clocks, w.policy⟩

/-- The committed tables after a step that is taken while nobody is in a unit of work. -/
def committedAfter (a : Store.Step) (t : Tables) : Tables := ((⟨t, none⟩ : Store).step a).2.committed

def perform (c : Command) (s : Settings) (t : Tables) (clocks : Service.Clocks) :
    Except Fault Outcome × Tables :=
  match c with
  | .provision => (.ok .provisioned, committedAfter .provision t)
  | .teardown false => (.error .unconfirmed, t)
  | .teardown true => (.ok .tornDown, committedAfter .teardown t)
  | .compact =>
    match Service.Wiring.ofSettings s with
    | .error fault => (.error (.ofWiring fault), t)
    | .ok w =>
      match (servicesOver t w clocks).call .purgeExpired with
      | (.ok (.count removed), d) => (.ok (.compacted removed), d.tables)
      | (.ok _, d) => (.ok (.compacted 0), d.tables)
      | (.error r, d) => (.error (.refused r), d.tables)

def execute (c : Command) (s : Settings) (t : Tables) (wall : Int) : Except Fault (Outcome × Tables) :=
  match c.perform s t ⟨wall, .noon, true⟩ with
  | (.ok outcome, after) => .ok (outcome, after)
  | (.error fault, _) => .error fault

end Command

end ChatSpaces.Admin
