import ChatSpaces.Failure

/-!
# Requests

What clients ask for, in the form in which it arrives. A request that can be read may still hold texts
that are too short or too long; all the problems of a request are reported together, in the order of the
names of its fields.
-/

namespace ChatSpaces

open Time (Instant)

namespace Request

structure Problem where
  field : String
  text : String
deriving DecidableEq, Repr

def Problem.line (p : Problem) : String := p.field ++ ": " ++ p.text

def refusal (ps : List Problem) : Refusal := .invalid ("\n".intercalate (ps.map Problem.line))

/-- A length between the bounds, counted in characters. -/
def LengthWithin (low high : Nat) (s : String) : Prop := low ≤ s.length ∧ s.length ≤ high

instance (low high : Nat) (s : String) : Decidable (LengthWithin low high s) :=
  inferInstanceAs (Decidable (_ ∧ _))

/-- An absent text is never too long. -/
def LengthUpTo (high : Nat) : Option String → Prop
  | none => True
  | some s => s.length ≤ high

instance (high : Nat) (s : Option String) : Decidable (LengthUpTo high s) := by
  unfold LengthUpTo
  split <;> infer_instance

def problemUnless (holds : Prop) [Decidable holds] (field text : String) : List Problem :=
  if holds then [] else [⟨field, text⟩]

@[simp] theorem problemUnless_eq_nil_iff {holds : Prop} [Decidable holds] {field text : String} :
    problemUnless holds field text = [] ↔ holds := by
  unfold problemUnless
  split <;> simp_all

def text? (d : Option Document) : Option String := d.bind Document.text?

def optionalText? : Option Document → Option (Option String) := Document.optional? Document.text?

def optionalDocument : Option String → Document := Document.ofOption Document.text

end Request

open Request

structure CreateUser where
  username : String
  displayName : Option String
deriving DecidableEq, Repr

namespace CreateUser

def problems (r : CreateUser) : List Problem :=
  problemUnless (LengthUpTo 100 r.displayName) "display_name" "Display name must be at most 100 characters"
    ++ problemUnless (LengthWithin 1 100 r.username) "username" "Username must be 1-100 characters"

def ofDocument? (d : Document) : Option CreateUser := do
  match ← d.fields? ["username", "display_name"] 2 with
  | [username, displayName] => return ⟨← text? username, ← optionalText? displayName⟩
  | _ => none

def document (r : CreateUser) : Document :=
  .record [("username", .text r.username), ("display_name", optionalDocument r.displayName)]

end CreateUser

structure CreateSpace where
  name : String
  description : Option String
deriving DecidableEq, Repr

namespace CreateSpace

def problems (r : CreateSpace) : List Problem :=
  problemUnless (LengthUpTo 1000 r.description) "description" "Description must be at most 1000 characters"
    ++ problemUnless (LengthWithin 1 100 r.name) "name" "Space name must be 1-100 characters"

def ofDocument? (d : Document) : Option CreateSpace := do
  match ← d.fields? ["name", "description"] 2 with
  | [name, description] => return ⟨← text? name, ← optionalText? description⟩
  | _ => none

def document (r : CreateSpace) : Document :=
  .record [("name", .text r.name), ("description", optionalDocument r.description)]

end CreateSpace

structure CreateChannel where
  name : String
deriving DecidableEq, Repr

namespace CreateChannel

def problems (r : CreateChannel) : List Problem :=
  problemUnless (LengthWithin 1 100 r.name) "name" "Channel name must be 1-100 characters"

def ofDocument? (d : Document) : Option CreateChannel := do
  match ← d.fields? ["name"] 1 with
  | [name] => return ⟨← text? name⟩
  | _ => none

def document (r : CreateChannel) : Document :=
  .record [("name", .text r.name)]

end CreateChannel

structure PostMessage where
  body : String
deriving DecidableEq, Repr

namespace PostMessage

def problems (r : PostMessage) : List Problem :=
  problemUnless (LengthWithin 1 4000 r.body) "body" "Message body must be 1-4000 characters"

def ofDocument? (d : Document) : Option PostMessage := do
  match ← d.fields? ["body"] 1 with
  | [body] => return ⟨← text? body⟩
  | _ => none

def document (r : PostMessage) : Document :=
  .record [("body", .text r.body)]

end PostMessage

structure AttachMedia where
  storageRef : String
  contentType : String
deriving DecidableEq, Repr

namespace AttachMedia

def problems (r : AttachMedia) : List Problem :=
  problemUnless (LengthWithin 1 255 r.contentType) "content_type" "Content type must be 1-255 characters"
    ++ problemUnless (LengthWithin 1 2048 r.storageRef) "storage_ref"
      "Storage reference must be 1-2048 characters"

def ofDocument? (d : Document) : Option AttachMedia := do
  match ← d.fields? ["storage_ref", "content_type"] 2 with
  | [storageRef, contentType] => return ⟨← text? storageRef, ← text? contentType⟩
  | _ => none

def document (r : AttachMedia) : Document :=
  .record [("storage_ref", .text r.storageRef), ("content_type", .text r.contentType)]

end AttachMedia

/-- Without a description the space keeps the one it has. -/
structure RenameSpace where
  name : String
  description : Option String
deriving DecidableEq, Repr

namespace RenameSpace

def problems (r : RenameSpace) : List Problem :=
  problemUnless (LengthUpTo 1000 r.description) "description" "Description must be at most 1000 characters"
    ++ problemUnless (LengthWithin 1 100 r.name) "name" "Space name must be 1-100 characters"

def ofDocument? (d : Document) : Option RenameSpace := do
  match ← d.fields? ["name", "description"] 1 with
  | [name, description] => return ⟨← text? name, ← optionalText? description⟩
  | _ => none

def document (r : RenameSpace) : Document :=
  .record [("name", .text r.name), ("description", optionalDocument r.description)]

end RenameSpace

structure RenameChannel where
  name : String
deriving DecidableEq, Repr

namespace RenameChannel

def problems (r : RenameChannel) : List Problem :=
  problemUnless (LengthWithin 1 100 r.name) "name" "Channel name must be 1-100 characters"

def ofDocument? (d : Document) : Option RenameChannel := do
  match ← d.fields? ["name"] 1 with
  | [name] => return ⟨← text? name⟩
  | _ => none

def document (r : RenameChannel) : Document :=
  .record [("name", .text r.name)]

end RenameChannel

structure EditMessage where
  body : String
deriving DecidableEq, Repr

namespace EditMessage

def problems (r : EditMessage) : List Problem :=
  problemUnless (LengthWithin 1 4000 r.body) "body" "Message body must be 1-4000 characters"

def ofDocument? (d : Document) : Option EditMessage := do
  match ← d.fields? ["body"] 1 with
  | [body] => return ⟨← text? body⟩
  | _ => none

def document (r : EditMessage) : Document :=
  .record [("body", .text r.body)]

end EditMessage

/-- Without an expiry the restraint is in force until it is revoked. -/
structure Restrain where
  kind : Restraint.Kind
  expiresAt : Option Instant
  reason : Option String
deriving DecidableEq, Repr

namespace Restrain

def problems (r : Restrain) : List Problem :=
  problemUnless (LengthUpTo 512 r.reason) "reason" "Reason must be at most 512 characters"

def instant? (d : Document) : Option Instant := d.text?.bind Instant.ofText?

def ofDocument? (d : Document) : Option Restrain := do
  match ← d.fields? ["kind", "expires_at", "reason"] 1 with
  | [kind, expiresAt, reason] =>
    return ⟨← kind.bind Restraint.Kind.ofDocument?, ← Document.optional? instant? expiresAt,
      ← optionalText? reason⟩
  | _ => none

def document (r : Restrain) : Document :=
  .record [("kind", r.kind.document),
    ("expires_at", Document.ofOption (fun i => .text i.toText) r.expiresAt),
    ("reason", optionalDocument r.reason)]

end Restrain

structure MessagePage where
  before : Option Ident
  limit : Int
deriving DecidableEq, Repr

namespace MessagePage

def first : MessagePage := ⟨none, 50⟩

def problems (r : MessagePage) : List Problem :=
  problemUnless (1 ≤ r.limit ∧ r.limit ≤ 256) "limit" "Limit must be between 1 and 256"

def limit? : Option Document → Option Int
  | none => some first.limit
  | some d => d.intWithin? Number.Word.minSigned Number.Word.maxSigned

def ofDocument? (d : Document) : Option MessagePage := do
  match ← d.fields? ["before", "limit"] 0 with
  | [before, limit] => return ⟨← Document.optional? Ident.ofDocument? before, ← limit? limit⟩
  | _ => none

def document (r : MessagePage) : Document :=
  .record [("before", Document.ofOption Ident.document r.before), ("limit", .whole r.limit)]

end MessagePage

end ChatSpaces
