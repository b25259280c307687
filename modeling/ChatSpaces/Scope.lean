import ChatSpaces.Ident

/-!
# Scopes

The reach of a membership or a restraint: a whole space or one channel.
-/

namespace ChatSpaces

inductive Scope.Kind where
  | space
  | channel
deriving DecidableEq, Repr

inductive Scope where
  | space (id : Ident)
  | channel (id : Ident)
deriving DecidableEq, Repr

namespace Scope

namespace Kind

def name : Kind → String
  | .space => "space"
  | .channel => "channel"

def ofName? (s : String) : Option Kind :=
  if s = "space" then some .space else if s = "channel" then some .channel else none

@[simp] theorem ofName?_name (k : Kind) : ofName? k.name = some k := by cases k <;> rfl

theorem ofName?_eq_some_iff {s : String} {k : Kind} : ofName? s = some k ↔ s = k.name := by
  constructor
  · intro h
    unfold ofName? at h
    split at h
    · next hs => cases h; exact hs
    · split at h
      · next hs => cases h; exact hs
      · cases h
  · rintro rfl
    exact ofName?_name k

end Kind

def id : Scope → Ident
  | .space i => i
  | .channel i => i

def kind : Scope → Kind
  | .space _ => .space
  | .channel _ => .channel

def ofParts : Kind → Ident → Scope
  | .space, i => .space i
  | .channel, i => .channel i

@[simp] theorem kind_ofParts (k : Kind) (i : Ident) : (ofParts k i).kind = k := by cases k <;> rfl

@[simp] theorem id_ofParts (k : Kind) (i : Ident) : (ofParts k i).id = i := by cases k <;> rfl

@[simp] theorem ofParts_kind_id (s : Scope) : ofParts s.kind s.id = s := by cases s <;> rfl

def toText (s : Scope) : String := s.kind.name ++ ":" ++ s.id.toText

def document (s : Scope) : Document :=
  .record [("kind", .text s.kind.name), ("id", s.id.document)]

/-- The name of a kind. In a list it has to be plain text. -/
def kindName? (d kind : Document) : Option String :=
  match d with
  | .list _ => kind.text?
  | _ => kind.name?

def ofDocument? (d : Document) : Option Scope := do
  match ← d.fields? ["kind", "id"] 2 with
  | [some kind, some id] =>
    return ofParts (← (kindName? d kind).bind Kind.ofName?) (← Ident.ofDocument? id)
  | _ => none

end Scope

end ChatSpaces
