import ChatSpaces.Proofs.Service.Content

/-!
# Deletion

A deletion marks one row, whatever has become of the rows above it, and a row that is marked stays as it is. So a
second deletion comes to nothing, and deletions of different rows do not get into each other's way.
-/

namespace ChatSpaces

open Service (ContentKind)
open Time (Instant)

inductive Content where
  | space (s : Space)
  | channel (c : Channel)
  | message (m : Message)
deriving DecidableEq

namespace Content

def kind : Content → ContentKind
  | .space _ => .space
  | .channel _ => .channel
  | .message _ => .message

def marked (now : Instant) : Content → Content
  | .space s => .space (Service.marked now s)
  | .channel c => .channel (Service.marked now c)
  | .message m => .message (Service.marked now m)

/-- The time of the first deletion stays. -/
theorem marked_marked (first second : Instant) (row : Content) :
    (row.marked first).marked second = row.marked first := by
  have settled {α : Type} [Service.Markable α] (a : α) :
      Service.marked second (Service.marked first a) = Service.marked first a := by
    cases gone : Deletable.deleted a with
    | true => rw [Service.marked_eq_self gone, Service.marked_eq_self gone]
    | false =>
      rw [Service.marked_of_live gone]
      exact Service.marked_eq_self (Service.Markable.deleted_mark first a)
  cases row <;> simp only [marked, settled]

end Content

namespace Tables

variable {t u v : Tables} {x y : ContentKind × Ident} {now : Instant}

def content? (t : Tables) (x : ContentKind × Ident) : Option Content :=
  match x.1 with
  | .space => (t.spaces.get? x.2).map .space
  | .channel => (t.channels.get? x.2).map .channel
  | .message => (t.messages.get? x.2).map .message

def put (t : Tables) (id : Ident) : Content → Tables
  | .space s => { t with spaces := t.spaces.insert id s }
  | .channel c => { t with channels := t.channels.insert id c }
  | .message m => { t with messages := t.messages.insert id m }

/-- Apart from what can be marked deleted the tables are the same. -/
structure Around (t u : Tables) : Prop where
  users : u.users = t.users
  spaceMembers : u.spaceMembers = t.spaceMembers
  channelMembers : u.channelMembers = t.channelMembers
  media : u.media = t.media
  restraints : u.restraints = t.restraints

/-- The one row is marked, if it is there, and nothing else has changed. -/
structure Buries (t : Tables) (x : ContentKind × Ident) (now : Instant) (u : Tables) : Prop where
  row : u.content? x = (t.content? x).map (·.marked now)
  others : ∀ y, y ≠ x → u.content? y = t.content? y
  around : t.Around u

theorem eq_of_content? (around : t.Around u) (same : ∀ x, u.content? x = t.content? x) : u = t := by
  have spaces : u.spaces = t.spaces :=
    Table.ext fun id => Option.map_injective (fun _ _ => Content.space.inj) (same (.space, id))
  have channels : u.channels = t.channels :=
    Table.ext fun id => Option.map_injective (fun _ _ => Content.channel.inj) (same (.channel, id))
  have messages : u.messages = t.messages :=
    Table.ext fun id => Option.map_injective (fun _ _ => Content.message.inj) (same (.message, id))
  obtain ⟨users, spaceMembers, channelMembers, media, restraints⟩ := around
  cases t
  cases u
  simp_all

namespace Around

theorem symm (h : t.Around u) : u.Around t :=
  ⟨h.users.symm, h.spaceMembers.symm, h.channelMembers.symm, h.media.symm, h.restraints.symm⟩

theorem trans (first : t.Around u) (second : u.Around v) : t.Around v where
  users := second.users.trans first.users
  spaceMembers := second.spaceMembers.trans first.spaceMembers
  channelMembers := second.channelMembers.trans first.channelMembers
  media := second.media.trans first.media
  restraints := second.restraints.trans first.restraints

end Around

namespace Buries

variable {first second : Instant} {u' v' : Tables}

theorem again (once : t.Buries x first u) (twice : u.Buries x second v) : v = u := by
  apply eq_of_content? twice.around
  intro y
  by_cases own : y = x
  · rw [own, twice.row, once.row, Option.map_map]
    congr 1
    funext row
    exact Content.marked_marked first second row
  · exact twice.others y own

/-- Deletions of different rows come to the same in either order: each row is marked by its own, and no row by both. -/
theorem commute (apart : x ≠ y) (x₁ : t.Buries x first u) (y₂ : u.Buries y second v) (y₁ : t.Buries y second u')
    (x₂ : u'.Buries x first v') : v = v' := by
  apply eq_of_content? ((x₂.around.symm.trans y₁.around.symm).trans (x₁.around.trans y₂.around))
  intro z
  by_cases atX : z = x
  · rw [atX, y₂.others x apart, x₁.row, x₂.row, y₁.others x apart]
  · by_cases atY : z = y
    · rw [atY, y₂.row, x₁.others y apart.symm, x₂.others y apart.symm, y₁.row]
    · rw [y₂.others z atY, x₁.others z atX, x₂.others z atX, y₁.others z atY]

end Buries

end Tables

namespace Service.Deployment

variable {d : Deployment} {x y : ContentKind × Ident}

def delete (d : Deployment) (clocks : Clocks) (x : ContentKind × Ident) : Except Refusal Answer × Deployment :=
  (d.under d.policy clocks).call (.deleteContent x.1 x.2)

end Service.Deployment

end ChatSpaces
