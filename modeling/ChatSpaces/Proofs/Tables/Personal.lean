import ChatSpaces.Proofs.Tables.Change
import Mathlib.Data.List.Basic

/-!
# What belongs to one user

Memberships and restraints lie under keys that end in a user. Two tables are the same for a user if the rows under the
keys of that user are, and everything that belongs to no user. A step is personal to a user if what it answers and what
it makes of the rows of the user depends on nothing else, and if it leaves the tables the same for all others. Steps
that are personal to different users can be taken in either order.
-/

namespace ChatSpaces

namespace Table

variable {κ α : Type} [Key (κ × Ident)] {user : Ident} {t u v : Table (κ × Ident) α}

def SameFor (user : Ident) (t u : Table (κ × Ident) α) : Prop := ∀ k, u.get? (k, user) = t.get? (k, user)

theorem SameFor.refl (user : Ident) (t : Table (κ × Ident) α) : t.SameFor user t := fun _ => rfl

theorem SameFor.symm (h : t.SameFor user u) : u.SameFor user t := fun k => (h k).symm

theorem SameFor.trans (first : t.SameFor user u) (second : u.SameFor user v) : t.SameFor user v :=
  fun k => (second k).trans (first k)

theorem eq_of_sameFor (same : ∀ user, t.SameFor user u) : u = t :=
  ext fun k => same k.2 k.1

theorem SameFor.contains (h : t.SameFor user u) (k : κ) : u.contains (k, user) = t.contains (k, user) := by
  rw [Table.contains, Table.contains, h]

theorem SameFor.insert (h : t.SameFor user u) (k : κ × Ident) (a : α) :
    (t.insert k a).SameFor user (u.insert k a) := by
  intro l
  rw [get?_insert, get?_insert, h]

theorem SameFor.filter (h : t.SameFor user u) (p : κ × Ident → α → Bool) : (t.filter p).SameFor user (u.filter p) := by
  intro l
  rw [get?_filter, get?_filter, h]

theorem SameFor.erase (h : t.SameFor user u) (k : κ × Ident) : (t.erase k).SameFor user (u.erase k) := h.filter _

theorem sameFor_insert {k : κ} {other : Ident} (apart : user ≠ other) (a : α) :
    t.SameFor user (t.insert (k, other) a) := by
  intro l
  rw [get?_insert, if_neg fun eq => apart (congrArg Prod.snd eq)]

theorem sameFor_filter {p : κ × Ident → α → Bool} (kept : ∀ k a, p (k, user) a = true) :
    t.SameFor user (t.filter p) := by
  intro l
  rw [get?_filter]
  cases t.get? (l, user) with
  | none => rfl
  | some a => rw [Option.filter_some, if_pos (kept l a)]

theorem sameFor_erase {k : κ} {other : Ident} (apart : user ≠ other) : t.SameFor user (t.erase (k, other)) := by
  intro l
  rw [get?_erase, if_neg fun eq => apart (congrArg Prod.snd eq)]

/-- If no rows are dropped but those of one user, how many are is up to these rows. -/
theorem SameFor.dropped (h : t.SameFor user u) {p : κ × Ident → α → Bool}
    (kept : ∀ k other a, other ≠ user → p (k, other) a = true) :
    u.size - (u.filter p).size = t.size - (t.filter p).size := by
  have count (t : Table (κ × Ident) α) : t.size - (t.filter p).size = (t.filter fun k a => !p k a).size := by
    have parts := List.length_eq_length_filter_add (l := t.entries) fun e => p e.1 e.2
    exact Nat.sub_eq_of_eq_add' parts
  have same : (u.filter fun k a => !p k a) = t.filter fun k a => !p k a := by
    apply ext
    rintro ⟨k, other⟩
    by_cases own : other = user
    · subst own
      rw [get?_filter, get?_filter, h]
    · have none (t : Table (κ × Ident) α) : (t.filter fun k a => !p k a).get? (k, other) = none := by
        rw [get?_filter]
        apply Option.filter_eq_none_iff.mpr
        intro a _
        simp [kept k other a own]
      rw [none, none]
  rw [count, count, same]

end Table

namespace Tables

variable {user other : Ident} {t u v : Tables}

/-- The rows of the user are the same, and so is everything that belongs to no user. -/
structure SameFor (user : Ident) (t u : Tables) : Prop where
  users : u.users = t.users
  spaces : u.spaces = t.spaces
  channels : u.channels = t.channels
  messages : u.messages = t.messages
  media : u.media = t.media
  spaceMembers : t.spaceMembers.SameFor user u.spaceMembers
  channelMembers : t.channelMembers.SameFor user u.channelMembers
  restraints : t.restraints.SameFor user u.restraints

namespace SameFor

theorem refl (user : Ident) (t : Tables) : t.SameFor user t :=
  ⟨rfl, rfl, rfl, rfl, rfl, .refl user _, .refl user _, .refl user _⟩

theorem symm (h : t.SameFor user u) : u.SameFor user t :=
  ⟨h.users.symm, h.spaces.symm, h.channels.symm, h.messages.symm, h.media.symm, h.spaceMembers.symm,
    h.channelMembers.symm, h.restraints.symm⟩

theorem trans (first : t.SameFor user u) (second : u.SameFor user v) : t.SameFor user v :=
  ⟨second.users.trans first.users, second.spaces.trans first.spaces, second.channels.trans first.channels,
    second.messages.trans first.messages, second.media.trans first.media,
    first.spaceMembers.trans second.spaceMembers, first.channelMembers.trans second.channelMembers,
    first.restraints.trans second.restraints⟩

theorem hasUser (h : t.SameFor user u) (id : Ident) : u.users.contains id = t.users.contains id := by rw [h.users]

theorem hasSpace (h : t.SameFor user u) (id : Ident) : u.spaces.contains id = t.spaces.contains id := by rw [h.spaces]

theorem hasChannel (h : t.SameFor user u) (id : Ident) : u.channels.contains id = t.channels.contains id := by
  rw [h.channels]

theorem isChannelOf (h : t.SameFor user u) (space id : Ident) : u.isChannelOf space id = t.isChannelOf space id := by
  rw [Tables.isChannelOf, Tables.isChannelOf, h.channels]

end SameFor

theorem eq_of_sameFor (same : ∀ user, t.SameFor user u) : u = t := by
  have any := same .least
  have spaceMembers := Table.eq_of_sameFor fun user => (same user).spaceMembers
  have channelMembers := Table.eq_of_sameFor fun user => (same user).channelMembers
  have restraints := Table.eq_of_sameFor fun user => (same user).restraints
  obtain ⟨users, spaces, channels, messages, media, -, -, -⟩ := any
  cases t
  cases u
  simp_all

/-- A step that looks at nothing and changes nothing but what belongs to the user, apart from looking at what belongs
to nobody. -/
structure Personal {α : Type} (user : Ident) (f : Tables → α × Tables) : Prop where
  answer : ∀ {t u : Tables}, t.SameFor user u → (f u).1 = (f t).1
  own : ∀ {t u : Tables}, t.SameFor user u → (f t).2.SameFor user (f u).2
  others : ∀ {other : Ident} (t : Tables), other ≠ user → t.SameFor other (f t).2

namespace Personal

variable {α β : Type}

theorem congr {f g : Tables → α × Tables} (h : Personal user f) (same : ∀ t, g t = f t) : Personal user g := by
  rw [funext same]
  exact h

theorem look {look : Tables → α} (same : ∀ {t u : Tables}, t.SameFor user u → look u = look t) :
    Personal user fun t => (look t, t) where
  answer := same
  own h := h
  others t _ := .refl _ t

theorem bind {f : Tables → α × Tables} {g : α → Tables → β × Tables} (first : Personal user f)
    (second : ∀ a, Personal user (g a)) : Personal user fun t => g (f t).1 (f t).2 where
  answer h := by
    rw [first.answer h]
    exact (second _).answer (first.own h)
  own h := by
    rw [first.answer h]
    exact (second _).own (first.own h)
  others t apart := (first.others t apart).trans ((second _).others _ apart)

theorem settle {ε : Type} {f : Tables → Except ε α × Tables} (h : Personal user f) :
    Personal user fun t => ((f t).1, if (f t).1.isOk then (f t).2 else t) where
  answer := h.answer
  own {t u} same := by
    simp only [h.answer same]
    split
    · exact h.own same
    · exact same
  others {other} t apart := by
    dsimp only
    split
    · exact h.others t apart
    · exact .refl other t

/-- Each of two steps that are personal to different users answers the same whether the other has been taken before it
or not, and it does not matter to the tables which of them is taken first. -/
theorem commute {f : Tables → α × Tables} {g : Tables → β × Tables} (first : Personal user f)
    (second : Personal other g) (apart : user ≠ other) (t : Tables) :
    (g (f t).2).1 = (g t).1 ∧ (f (g t).2).1 = (f t).1 ∧ (g (f t).2).2 = (f (g t).2).2 := by
  have unseen : t.SameFor other (f t).2 := first.others t apart.symm
  have unseen' : t.SameFor user (g t).2 := second.others t apart
  refine ⟨second.answer unseen, first.answer unseen', eq_of_sameFor fun x => ?_⟩
  by_cases own : x = user
  · subst own
    exact (first.own unseen').symm.trans (second.others (f t).2 apart)
  · have later : (g t).2.SameFor x (f (g t).2).2 := first.others (g t).2 own
    by_cases own' : x = other
    · subst own'
      exact later.symm.trans (second.own unseen)
    · have once : t.SameFor x (f (g t).2).2 := (second.others t own').trans later
      have again : t.SameFor x (g (f t).2).2 := (first.others t own).trans (second.others _ own')
      exact once.symm.trans again

end Personal

/-- An insertion into tables that are the same for a user: it fails in both for one reason, or it is done in both, and
they are still the same for the user. -/
inductive Together (user : Ident) : Except Failure Tables → Except Failure Tables → Prop
  | failed (f : Failure) : Together user (.error f) (.error f)
  | done {v w : Tables} (same : v.SameFor user w) : Together user (.ok v) (.ok w)

structure Inserts (user : Ident) (insertion : Tables → Except Failure Tables) : Prop where
  together : ∀ {t u : Tables}, t.SameFor user u → Together user (insertion t) (insertion u)
  others : ∀ {other : Ident} {t u : Tables}, insertion t = .ok u → other ≠ user → t.SameFor other u

theorem inserts_insertSpaceMember (m : SpaceMember) : Inserts m.user (·.insertSpaceMember m) where
  together h := by
    simp only [insertSpaceMember, h.hasSpace, h.hasUser, h.spaceMembers.contains]
    split
    · exact .failed _
    split
    · exact .failed _
    split
    · exact .failed _
    · exact .done { h with spaceMembers := h.spaceMembers.insert _ m }
  others {other t u} ok apart := by
    obtain ⟨-, -, -, rfl⟩ := insertSpaceMember_eq_ok_iff.mp ok
    exact { SameFor.refl other t with spaceMembers := Table.sameFor_insert apart m }

theorem inserts_insertChannelMember (m : ChannelMember) : Inserts m.user (·.insertChannelMember m) where
  together h := by
    simp only [insertChannelMember, h.hasChannel, h.hasUser, h.channelMembers.contains]
    split
    · exact .failed _
    split
    · exact .failed _
    split
    · exact .failed _
    · exact .done { h with channelMembers := h.channelMembers.insert _ m }
  others {other t u} ok apart := by
    obtain ⟨-, -, -, rfl⟩ := insertChannelMember_eq_ok_iff.mp ok
    exact { SameFor.refl other t with channelMembers := Table.sameFor_insert apart m }

theorem inserts_putRestraint (r : Restraint) : Inserts r.user (·.putRestraint r) where
  together h := by
    simp only [putRestraint, h.hasUser]
    split
    · exact .failed _
    · exact .done { h with restraints := h.restraints.insert _ r }
  others {other t u} ok apart := by
    obtain ⟨-, rfl⟩ := putRestraint_eq_ok_iff.mp ok
    exact { SameFor.refl other t with restraints := Table.sameFor_insert apart r }

theorem personal_removeSpaceMember? (space user : Ident) :
    Personal user fun t => ((t.removeSpaceMember? space user).isSome, (t.removeSpaceMember? space user).getD t) := by
  simp only [isSome_removeSpaceMember?, getD_removeSpaceMember?]
  exact {
    answer h := h.spaceMembers.contains space
    own h := { h with spaceMembers := h.spaceMembers.erase _ }
    others t apart := { SameFor.refl _ t with spaceMembers := Table.sameFor_erase apart } }

theorem personal_removeChannelMember? (channel user : Ident) :
    Personal user fun t =>
      ((t.removeChannelMember? channel user).isSome, (t.removeChannelMember? channel user).getD t) := by
  simp only [isSome_removeChannelMember?, getD_removeChannelMember?]
  exact {
    answer h := h.channelMembers.contains channel
    own h := { h with channelMembers := h.channelMembers.erase _ }
    others t apart := { SameFor.refl _ t with channelMembers := Table.sameFor_erase apart } }

theorem personal_removeRestraint? (scope : Scope) (user : Ident) :
    Personal user fun t => ((t.removeRestraint? scope user).isSome, (t.removeRestraint? scope user).getD t) := by
  simp only [isSome_removeRestraint?, getD_removeRestraint?]
  exact {
    answer h := h.restraints.contains scope
    own h := { h with restraints := h.restraints.erase _ }
    others t apart := { SameFor.refl _ t with restraints := Table.sameFor_erase apart } }

theorem personal_removeChannelMembersIn (space user : Ident) :
    Personal user (·.removeChannelMembersIn space user) where
  answer {t u} h := by
    simp only [removeChannelMembersIn, h.isChannelOf]
    exact h.channelMembers.dropped fun k other a apart => by simp [apart]
  own {t u} h := by
    simp only [removeChannelMembersIn, h.isChannelOf]
    exact { h with channelMembers := h.channelMembers.filter _ }
  others {other} t apart :=
    { SameFor.refl other t with channelMembers := Table.sameFor_filter fun k a => by simp [apart] }

theorem personal_setRole? (space user : Ident) (role : Role) :
    Personal user fun t =>
      ((t.setRole? space user role).map Prod.fst, ((t.setRole? space user role).map Prod.snd).getD t) where
  answer {t u} h := by
    simp only [setRole?, h.spaceMembers space, Option.map_map]
    rfl
  own {t u} h := by
    simp only [setRole?, h.spaceMembers space]
    cases t.spaceMembers.get? (space, user) with
    | none => exact h
    | some m => exact { h with spaceMembers := h.spaceMembers.insert _ _ }
  others {other} t apart := by
    simp only [setRole?]
    cases t.spaceMembers.get? (space, user) with
    | none => exact .refl other t
    | some m => exact { SameFor.refl other t with spaceMembers := Table.sameFor_insert apart _ }

end Tables

end ChatSpaces
