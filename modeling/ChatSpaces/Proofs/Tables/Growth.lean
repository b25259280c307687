import ChatSpaces.Proofs.Tables.Change
import Mathlib.Logic.Relation

/-!
# What stays in the tables

No change takes a user, a space, a channel, a message or media out of the tables. What such a row says from
the beginning it says for good, and a row that is marked deleted stays as it is.
-/

namespace ChatSpaces

def Table.Keeps {κ α : Type} [Key κ] (R : α → α → Prop) (t u : Table κ α) : Prop :=
  ∀ k a, t.get? k = some a → ∃ b, u.get? k = some b ∧ R a b

namespace Table.Keeps

variable {κ α : Type} [Key κ] {R : α → α → Prop} {t u v : Table κ α} {k : κ} {a b : α}

theorem refl (same : ∀ a, R a a) (t : Table κ α) : t.Keeps R t := fun _ a found => ⟨a, found, same a⟩

theorem trans (chain : ∀ {a b c}, R a b → R b c → R a c) (first : t.Keeps R u) (second : u.Keeps R v) :
    t.Keeps R v := by
  intro k a found
  obtain ⟨b, between, ab⟩ := first k a found
  obtain ⟨c, last, bc⟩ := second k b between
  exact ⟨c, last, chain ab bc⟩

theorem insert (same : ∀ a, R a a) (free : t.contains k = false) : t.Keeps R (t.insert k b) := by
  intro l a found
  have other : l ≠ k := by
    rintro rfl
    rw [Table.contains_of_get? found] at free
    cases free
  exact ⟨a, by rw [Table.get?_insert, if_neg other, found], same a⟩

theorem replace (same : ∀ a, R a a) (found : t.get? k = some a) (step : R a b) : t.Keeps R (t.insert k b) := by
  intro l c there
  by_cases eq : l = k
  · subst eq
    rw [found] at there
    cases there
    exact ⟨b, Table.get?_insert_self _ _ _, step⟩
  · exact ⟨c, by rw [Table.get?_insert, if_neg eq, there], same c⟩

theorem mono {S : α → α → Prop} (kept : t.Keeps R u) (weaker : ∀ {a b}, R a b → S a b) : t.Keeps S u := by
  intro k a found
  obtain ⟨b, later, ab⟩ := kept k a found
  exact ⟨b, later, weaker ab⟩

theorem contains (kept : t.Keeps R u) (there : t.contains k = true) : u.contains k = true := by
  obtain ⟨a, found⟩ := Table.contains_eq_true_iff.mp there
  obtain ⟨b, found', -⟩ := kept k a found
  exact Table.contains_of_get? found'

end Table.Keeps

/-- What a row is given when it is made stays, and once it is marked deleted all of it does. -/
def Settled {α β : Type} (given : α → β) (deleted : α → Bool) (a b : α) : Prop :=
  given b = given a ∧ (deleted a = true → b = a)

namespace Settled

variable {α β : Type} {given : α → β} {deleted : α → Bool} {a b c : α}

theorem refl (a : α) : Settled given deleted a a := ⟨rfl, fun _ => rfl⟩

theorem trans (ab : Settled given deleted a b) (bc : Settled given deleted b c) : Settled given deleted a c := by
  refine ⟨bc.1.trans ab.1, fun gone => ?_⟩
  obtain rfl := ab.2 gone
  exact bc.2 gone

theorem of_live (live : deleted a = false) (same : given b = given a) : Settled given deleted a b :=
  ⟨same, fun gone => absurd (live.symm.trans gone) Bool.false_ne_true⟩

end Settled

/-- What a space is given when it is made. -/
def Space.given (s : Space) : Ident × Ident × Time.Instant := (s.id, s.owner, s.createdAt)

def Channel.given (c : Channel) : Ident × Ident × Time.Instant := (c.id, c.space, c.createdAt)

def Message.given (m : Message) : Ident × Ident × Ident × Time.Instant := (m.id, m.channel, m.author, m.createdAt)

namespace Tables

/-- Rows are for good: users and media as they are, the others as far as they are settled. -/
structure Persists (t u : Tables) : Prop where
  users : t.users.Keeps Eq u.users
  spaces : t.spaces.Keeps (Settled Space.given Space.deleted) u.spaces
  channels : t.channels.Keeps (Settled Channel.given Channel.deleted) u.channels
  messages : t.messages.Keeps (Settled Message.given Message.deleted) u.messages
  media : t.media.Keeps Eq u.media

namespace Persists

variable {t u v : Tables}

theorem refl (t : Tables) : t.Persists t where
  users := .refl Eq.refl _
  spaces := .refl .refl _
  channels := .refl .refl _
  messages := .refl .refl _
  media := .refl Eq.refl _

theorem trans (first : t.Persists u) (second : u.Persists v) : t.Persists v where
  users := .trans Eq.trans first.users second.users
  spaces := .trans .trans first.spaces second.spaces
  channels := .trans .trans first.channels second.channels
  messages := .trans .trans first.messages second.messages
  media := .trans Eq.trans first.media second.media

theorem of_empty (t : Tables) : Persists ∅ t where
  users _ _ found := nomatch found
  spaces _ _ found := nomatch found
  channels _ _ found := nomatch found
  messages _ _ found := nomatch found
  media _ _ found := nomatch found

theorem change (changed : Change t u) : t.Persists u := by
  cases changed with
  | insertUser ok =>
    obtain ⟨free, -, rfl⟩ := insertUser_eq_ok_iff.mp ok
    exact { Persists.refl t with users := .insert Eq.refl free }
  | insertSpace ok =>
    obtain ⟨-, free, rfl⟩ := insertSpace_eq_ok_iff.mp ok
    exact { Persists.refl t with spaces := .insert .refl free }
  | updateSpace ok =>
    obtain ⟨stored, found, live, rfl⟩ := updateSpace?_eq_some_iff.mp ok
    exact { Persists.refl t with spaces := .replace .refl found (.of_live live rfl) }
  | deleteSpace ok =>
    obtain ⟨s, found, rfl⟩ := deleteSpace?_eq_some_iff.mp ok
    split
    · exact .refl t
    · next live =>
      exact { Persists.refl t with spaces := .replace .refl found (.of_live (Bool.not_eq_true _ ▸ live) rfl) }
  | insertChannel ok =>
    obtain ⟨-, free, rfl⟩ := insertChannel_eq_ok_iff.mp ok
    exact { Persists.refl t with channels := .insert .refl free }
  | updateChannel ok =>
    obtain ⟨stored, found, live, rfl⟩ := updateChannel?_eq_some_iff.mp ok
    exact { Persists.refl t with channels := .replace .refl found (.of_live live rfl) }
  | deleteChannel ok =>
    obtain ⟨c, found, rfl⟩ := deleteChannel?_eq_some_iff.mp ok
    split
    · exact .refl t
    · next live =>
      exact { Persists.refl t with channels := .replace .refl found (.of_live (Bool.not_eq_true _ ▸ live) rfl) }
  | insertSpaceMember ok =>
    obtain ⟨-, -, -, rfl⟩ := insertSpaceMember_eq_ok_iff.mp ok
    exact { Persists.refl t with }
  | setRole ok =>
    obtain ⟨stored, -, -, rfl⟩ := setRole?_eq_some_iff.mp ok
    exact { Persists.refl t with }
  | removeSpaceMember ok =>
    obtain ⟨-, rfl⟩ := removeSpaceMember?_eq_some_iff.mp ok
    exact { Persists.refl t with }
  | insertChannelMember ok =>
    obtain ⟨-, -, -, rfl⟩ := insertChannelMember_eq_ok_iff.mp ok
    exact { Persists.refl t with }
  | removeChannelMember ok =>
    obtain ⟨-, rfl⟩ := removeChannelMember?_eq_some_iff.mp ok
    exact { Persists.refl t with }
  | putRestraint ok =>
    obtain ⟨-, rfl⟩ := putRestraint_eq_ok_iff.mp ok
    exact { Persists.refl t with }
  | removeRestraint ok =>
    obtain ⟨-, rfl⟩ := removeRestraint?_eq_some_iff.mp ok
    exact { Persists.refl t with }
  | insertMessage ok =>
    obtain ⟨-, -, free, rfl⟩ := insertMessage_eq_ok_iff.mp ok
    exact { Persists.refl t with messages := .insert .refl free }
  | updateMessage ok =>
    obtain ⟨stored, found, live, rfl⟩ := updateMessage?_eq_some_iff.mp ok
    exact { Persists.refl t with messages := .replace .refl found (.of_live live rfl) }
  | deleteMessage ok =>
    obtain ⟨m, found, rfl⟩ := deleteMessage?_eq_some_iff.mp ok
    split
    · exact .refl t
    · next live =>
      exact { Persists.refl t with messages := .replace .refl found (.of_live (Bool.not_eq_true _ ▸ live) rfl) }
  | insertMedia ok =>
    obtain ⟨-, free, rfl⟩ := insertMedia_eq_ok_iff.mp ok
    exact { Persists.refl t with media := .insert Eq.refl free }
  | none | removeChannelMembersIn | removeExpired => exact { Persists.refl t with }

theorem changes (changed : Relation.ReflTransGen Change t u) : t.Persists u := by
  induction changed with
  | refl => exact .refl t
  | tail _ changed ih => exact ih.trans (.change changed)

end Persists

def SameSpace (s s' : Space) : Prop := s.deleted = true → s'.deleted = true

def SameChannel (c c' : Channel) : Prop := c'.space = c.space

structure Endures (t u : Tables) : Prop where
  users : t.users.Keeps Eq u.users
  spaces : t.spaces.Keeps SameSpace u.spaces
  channels : t.channels.Keeps SameChannel u.channels

variable {t u : Tables}

theorem Persists.endures (h : t.Persists u) : t.Endures u where
  users := h.users
  spaces := h.spaces.mono fun settled gone => settled.2 gone ▸ gone
  channels := h.channels.mono fun settled => (congrArg (·.2.1) settled.1 :)

end Tables

end ChatSpaces
