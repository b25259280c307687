import ChatSpaces.Proofs.Service.Run

/-!
# What a run draws

Every identifier in the tables of a deployment has been drawn from its generator before. While the generator stays
within its bits it makes no identifier twice, so those that a call draws are new to the tables.
-/

namespace ChatSpaces

def Table.Gains {α : Type} (l : List Ident) (t u : Table Ident α) : Prop :=
  ∀ i, u.contains i = true → t.contains i = true ∨ i ∈ l

namespace Table.Gains

variable {α : Type} {l : List Ident} {t : Table Ident α} {k : Ident} {a b : α}

theorem refl (l : List Ident) (t : Table Ident α) : t.Gains l t := fun _ there => .inl there

theorem insert (drawn : k ∈ l) : t.Gains l (t.insert k a) := by
  intro i there
  rcases Table.contains_insert.mp there with rfl | before
  · exact .inr drawn
  · exact .inl before

theorem replace (found : t.get? k = some a) : t.Gains l (t.insert k b) := by
  intro i there
  rcases Table.contains_insert.mp there with rfl | before
  · exact .inl (Table.contains_of_get? found)
  · exact .inl before

end Table.Gains

namespace Tables

def Uses (t : Tables) (i : Ident) : Prop :=
  t.users.contains i = true ∨ t.spaces.contains i = true ∨ t.channels.contains i = true ∨
    t.messages.contains i = true ∨ t.media.contains i = true

theorem not_uses_empty (i : Ident) : ¬ Uses ∅ i := by
  rintro (there | there | there | there | there) <;> exact Bool.false_ne_true there

/-- New rows lie under identifiers from the list. -/
structure Gains (l : List Ident) (t u : Tables) : Prop where
  users : t.users.Gains l u.users
  spaces : t.spaces.Gains l u.spaces
  channels : t.channels.Gains l u.channels
  messages : t.messages.Gains l u.messages
  media : t.media.Gains l u.media

variable {l : List Ident} {t u : Tables}

theorem Gains.refl (l : List Ident) (t : Tables) : t.Gains l t :=
  ⟨.refl l _, .refl l _, .refl l _, .refl l _, .refl l _⟩

theorem Gains.uses (h : t.Gains l u) {i : Ident} (used : u.Uses i) : t.Uses i ∨ i ∈ l := by
  rcases used with user | space | channel | message | media
  · exact (h.users i user).imp_left .inl
  · exact (h.spaces i space).imp_left (.inr ∘ .inl)
  · exact (h.channels i channel).imp_left (.inr ∘ .inr ∘ .inl)
  · exact (h.messages i message).imp_left (.inr ∘ .inr ∘ .inr ∘ .inl)
  · exact (h.media i media).imp_left (.inr ∘ .inr ∘ .inr ∘ .inr)

end Tables

namespace Service

open Generator (wallLimit wordLimit)

section Effect

variable {c : Context} {t u : Tables} {call : Call} {l : List Ident} {a : Answer}

theorem gains_of_delete? {kind : ContentKind} {id : Ident} {time : Time.Instant}
    (ok : kind.delete? t id time = some u) : t.Gains l u := by
  cases kind with
  | space =>
    obtain ⟨s, found, rfl⟩ := Tables.deleteSpace?_eq_some_iff.mp ok
    split
    · exact .refl l t
    · exact { Tables.Gains.refl l t with spaces := .replace found }
  | channel =>
    obtain ⟨ch, found, rfl⟩ := Tables.deleteChannel?_eq_some_iff.mp ok
    split
    · exact .refl l t
    · exact { Tables.Gains.refl l t with channels := .replace found }
  | message =>
    obtain ⟨m, found, rfl⟩ := Tables.deleteMessage?_eq_some_iff.mp ok
    split
    · exact .refl l t
    · exact { Tables.Gains.refl l t with messages := .replace found }

theorem gains_of_effect (effect : Effect c t call l a u) : t.Gains l u := by
  cases effect with
  | look => exact .refl _ t
  | createUser _ made ok =>
    obtain ⟨-, -, rfl⟩ := Tables.insertUser_eq_ok_iff.mp ok
    subst made
    exact { Tables.Gains.refl _ t with users := .insert (.head _) }
  | createSpace _ made ok joined =>
    obtain ⟨-, -, rfl⟩ := Tables.insertSpace_eq_ok_iff.mp ok
    obtain ⟨-, -, -, rfl⟩ := Tables.insertSpaceMember_eq_ok_iff.mp joined
    subst made
    exact { Tables.Gains.refl _ t with spaces := .insert (.head _) }
  | createChannel _ _ made ok =>
    obtain ⟨-, -, rfl⟩ := Tables.insertChannel_eq_ok_iff.mp ok
    subst made
    exact { Tables.Gains.refl _ t with channels := .insert (.head _) }
  | renameSpace _ _ _ _ ok =>
    obtain ⟨stored, found, -, rfl⟩ := Tables.updateSpace?_eq_some_iff.mp ok
    exact { Tables.Gains.refl _ t with spaces := .replace found }
  | renameChannel _ _ _ _ ok =>
    obtain ⟨stored, found, -, rfl⟩ := Tables.updateChannel?_eq_some_iff.mp ok
    exact { Tables.Gains.refl _ t with channels := .replace found }
  | deleteContent ok => exact gains_of_delete? ok
  | postMessage _ _ made ok =>
    obtain ⟨-, -, -, rfl⟩ := Tables.insertMessage_eq_ok_iff.mp ok
    subst made
    exact { Tables.Gains.refl _ t with messages := .insert (.head _) }
  | editMessage _ _ _ _ _ ok =>
    obtain ⟨stored, found, -, rfl⟩ := Tables.updateMessage?_eq_some_iff.mp ok
    exact { Tables.Gains.refl _ t with messages := .replace found }
  | attachMedia _ _ made ok =>
    obtain ⟨-, -, rfl⟩ := Tables.insertMedia_eq_ok_iff.mp ok
    subst made
    exact { Tables.Gains.refl _ t with media := .insert (.head _) }
  | deleteMessageAs _ _ ok => exact gains_of_delete? (show ContentKind.delete? t .message _ _ = some _ from ok)
  | addSpaceMember _ _ ok =>
    obtain ⟨-, -, -, rfl⟩ := Tables.insertSpaceMember_eq_ok_iff.mp ok
    exact { Tables.Gains.refl _ t with }
  | addChannelMember _ _ _ ok =>
    obtain ⟨-, -, -, rfl⟩ := Tables.insertChannelMember_eq_ok_iff.mp ok
    exact { Tables.Gains.refl _ t with }
  | leaveSpace =>
    rw [Tables.getD_removeSpaceMember?]
    exact { Tables.Gains.refl _ t with }
  | leaveChannel =>
    rw [Tables.getD_removeChannelMember?]
    exact { Tables.Gains.refl _ t with }
  | setSpaceRole _ ok =>
    obtain ⟨stored, -, -, rfl⟩ := Tables.setRole?_eq_some_iff.mp ok
    exact { Tables.Gains.refl _ t with }
  | restrain _ _ _ ok =>
    obtain ⟨-, rfl⟩ := Tables.putRestraint_eq_ok_iff.mp ok
    exact { Tables.Gains.refl _ t with }
  | revokeRestraint =>
    rw [Tables.getD_removeRestraint?]
    exact { Tables.Gains.refl _ t with }
  | purgeExpired => exact { Tables.Gains.refl _ t with }

end Effect

namespace Deployment

variable {d : Deployment}

def readingsOfEvent (d : Deployment) : Event → List Int
  | .call c => d.readingsOfCall c
  | .draw => [d.clocks.wall]
  | .advance _ | .setClock _ | .setWall _ | .teardown => []

def readings (d : Deployment) : List Event → List Int
  | [] => []
  | e :: es => d.readingsOfEvent e ++ (d.handle e).readings es

theorem readings_append (d : Deployment) (es fs : List Event) :
    d.readings (es ++ fs) = d.readings es ++ (d.after es).readings fs := by
  induction es generalizing d with
  | nil => rfl
  | cons e es ih =>
    rw [List.cons_append, readings, readings, ih, List.append_assoc]
    rfl

theorem ids_handle (d : Deployment) (e : Event) : (d.handle e).ids = d.ids.afterDraws (d.readingsOfEvent e) := by
  cases e with
  | call c => exact ids_call d c
  | advance ms =>
    simp only [handle, advance]
    cases d.clocks.manual.addMillis? ms <;> rfl
  | draw | setClock | setWall | teardown => rfl

theorem ids_after (d : Deployment) (es : List Event) : (d.after es).ids = d.ids.afterDraws (d.readings es) := by
  induction es generalizing d with
  | nil => rfl
  | cons e es ih =>
    rw [readings, Generator.afterDraws_append, ← ids_handle]
    exact ih (d.handle e)

theorem uses_handle {e : Event} {i : Ident} (used : (d.handle e).tables.Uses i) :
    d.tables.Uses i ∨ i ∈ d.ids.draws (d.readingsOfEvent e) := by
  cases e with
  | call c =>
    cases answered : (d.call c).1 with
    | error r =>
      rw [handle, tables_of_refused answered] at used
      exact .inl used
    | ok a => exact (gains_of_effect (effect_of_answered answered)).uses used
  | advance ms =>
    left
    simp only [handle, advance] at used
    cases moved : d.clocks.manual.addMillis? ms with
    | none =>
      rw [moved] at used
      exact used
    | some time =>
      rw [moved] at used
      exact used
  | draw | setClock | setWall => exact .inl used
  | teardown => exact absurd used (Tables.not_uses_empty i)

theorem uses_after {es : List Event} {i : Ident} (used : (d.after es).tables.Uses i) :
    d.tables.Uses i ∨ i ∈ d.ids.draws (d.readings es) := by
  induction es generalizing d with
  | nil => exact .inl used
  | cons e es ih =>
    rw [readings, Generator.draws_append, ← ids_handle, List.mem_append]
    rcases ih used with before | later
    · exact (uses_handle before).imp_right .inl
    · exact .inr (.inr later)

/-- The deployment is reached from its start with one generator for all identifiers, and until the call has ended its
clock and its word stay within their bits. -/
def WithinBits (d : Deployment) (c : Call) : Prop :=
  ∃ w clocks es, d = (start w clocks).after es ∧ 0 ≤ w.ids.last ∧
    (∀ wall ∈ (start w clocks).readings (es ++ [.call c]), wall < wallLimit) ∧
    ∀ p ∈ w.ids.last :: w.ids.words ((start w clocks).readings (es ++ [.call c])), p < wordLimit

/-- While the generator stays within its bits, no call draws an identifier that is in use. -/
theorem WithinBits.not_uses {c : Call} (h : d.WithinBits c) {i : Ident}
    (drawn : i ∈ d.ids.draws (d.readingsOfCall c)) : ¬ d.tables.Uses i := by
  obtain ⟨w, clocks, es, rfl, positive, early, room⟩ := h
  intro used
  have increasing := Generator.pairwise_draws positive early room
  rw [readings_append, Generator.draws_append, List.pairwise_append] at increasing
  obtain ⟨-, -, apart⟩ := increasing
  rcases uses_after used with before | earlier
  · exact Tables.not_uses_empty i before
  · have later : i ∈ (w.ids.afterDraws ((start w clocks).readings es)).draws
        (((start w clocks).after es).readings [.call c]) := by
      rw [ids_after] at drawn
      rw [readings, readings, List.append_nil]
      exact drawn
    exact Int.lt_irrefl _ (apart i earlier i later)

end Deployment

end Service

end ChatSpaces
