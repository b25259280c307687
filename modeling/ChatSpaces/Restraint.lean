import ChatSpaces.Scope
import ChatSpaces.Text.Blank
import ChatSpaces.Text.Case
import ChatSpaces.Time.Rfc3339

/-!
# Restraints

A moderator restrains a user in a scope: mutes, bans or sends them out for a time. A restraint with an
expiry is in force strictly before it; one without is in force until it is revoked. Nothing happens at
the expiry: whoever reads a restraint asks whether it is in force.
-/

namespace ChatSpaces

open Time (Instant)

inductive Restraint.Kind where
  | mute
  | ban
  | timeout
deriving DecidableEq, Repr

namespace Restraint.Kind

def all : List Kind := [.mute, .ban, .timeout]

theorem mem_all (k : Kind) : k ∈ all := by cases k <;> decide

def name : Kind → String
  | .mute => "mute"
  | .ban => "ban"
  | .timeout => "timeout"

def title : Kind → String
  | .mute => "Mute"
  | .ban => "Ban"
  | .timeout => "Timeout"

/-- The place of a kind in the alphabetic order of the names. -/
def rank : Kind → Nat
  | .ban => 0
  | .mute => 1
  | .timeout => 2

theorem rank_inj {k l : Kind} : k.rank = l.rank ↔ k = l := by cases k <;> cases l <;> decide

theorem rank_lt_iff (k l : Kind) : k.rank < l.rank ↔ k.name < l.name := by
  cases k <;> cases l <;> decide

def ofName? (s : String) : Option Kind :=
  if s = "mute" then some .mute
  else if s = "ban" then some .ban
  else if s = "timeout" then some .timeout
  else none

@[simp] theorem ofName?_name (k : Kind) : ofName? k.name = some k := by cases k <;> rfl

/-- A text that names no kind, trimmed and lowered. -/
structure Unknown where
  text : String
deriving DecidableEq, Repr

def Unknown.message (u : Unknown) : String := "unknown restraint kind: " ++ u.text

def read (s : String) : Except Unknown Kind :=
  let name := Text.lower (Text.trim s)
  match ofName? name with
  | some k => .ok k
  | none => .error ⟨name⟩

theorem read_eq_ok_iff {s : String} {k : Kind} :
    read s = .ok k ↔ ofName? (Text.lower (Text.trim s)) = some k := by
  simp only [read]
  split <;> simp_all

def document (k : Kind) : Document := .text k.name

def ofDocument? (d : Document) : Option Kind := d.name?.bind ofName?

end Restraint.Kind

structure Restraint where
  scope : Scope
  user : Ident
  kind : Restraint.Kind
  expiresAt : Option Instant
  issuedBy : Ident
  issuedAt : Instant
  reason : Option String
deriving DecidableEq, Repr

namespace Restraint

/-- In force at `t`: without expiry, or strictly before it. -/
def ActiveAt (r : Restraint) (t : Instant) : Prop :=
  match r.expiresAt with
  | none => True
  | some e => t < e

instance (r : Restraint) (t : Instant) : Decidable (r.ActiveAt t) := by
  unfold ActiveAt
  split <;> infer_instance

def isIndefinite (r : Restraint) : Bool := r.expiresAt.isNone

theorem ActiveAt.of_le {r : Restraint} {t u : Instant} (h : r.ActiveAt u) (le : t ≤ u) : r.ActiveAt t := by
  unfold ActiveAt at *
  split <;> simp_all
  exact Instant.lt_of_le_of_lt le h

end Restraint

end ChatSpaces
