import ChatSpaces.Proofs.Service.Course

/-!
# Sizes of stored texts

A text gets into the tables out of a request that has been looked at, and there it stays until it is replaced by
another one of the same kind. Every bound that the requests put on a text is therefore a bound on the stored one,
however the rows have been made, changed and marked since.
-/

namespace ChatSpaces

open Request (LengthWithin LengthUpTo)

namespace Table

variable {κ α : Type} [Key κ] {p : α → Prop} {t : Table κ α}

def Each (p : α → Prop) (t : Table κ α) : Prop := ∀ k a, t.get? k = some a → p a

theorem Each.empty : (∅ : Table κ α).Each p := fun _ _ h => nomatch h

theorem Each.insert (h : t.Each p) (k : κ) {a : α} (new : p a) : (t.insert k a).Each p := by
  intro l b found
  rw [get?_insert] at found
  split at found
  · cases found
    exact new
  · exact h l b found

theorem Each.filter (h : t.Each p) (q : κ → α → Bool) : (t.filter q).Each p :=
  fun k a found => h k a (get?_of_get?_filter found)

end Table

/-- The lengths of the stored texts, in characters. -/
structure Tables.Sized (t : Tables) : Prop where
  users : t.users.Each fun u => LengthWithin 1 100 u.username ∧ u.displayName.length ≤ 100
  spaces : t.spaces.Each fun s => LengthWithin 1 100 s.name ∧ s.description.length ≤ 1000
  channels : t.channels.Each fun c => LengthWithin 1 100 c.name
  messages : t.messages.Each fun m => LengthWithin 1 4000 m.body
  media : t.media.Each fun m => LengthWithin 1 2048 m.storageRef ∧ LengthWithin 1 255 m.contentType
  restraints : t.restraints.Each fun r => LengthUpTo 512 r.reason

namespace Tables.Sized

theorem empty : Sized ∅ := ⟨.empty, .empty, .empty, .empty, .empty, .empty⟩

end Tables.Sized

namespace Service

open Time (Instant)

variable {c : Context} {t u : Tables} {call : Call} {l : List Ident} {a : Answer}

theorem length_getD {high : Nat} {given : Option String} {otherwise : String} (short : LengthUpTo high given)
    (fallback : otherwise.length ≤ high) : (given.getD otherwise).length ≤ high := by
  cases given with
  | none => exact fallback
  | some s => exact short

theorem sized_of_delete? {kind : ContentKind} {id : Ident} {time : Instant} (sized : t.Sized)
    (ok : kind.delete? t id time = some u) : u.Sized := by
  cases kind with
  | space =>
    obtain ⟨s, found, rfl⟩ := Tables.deleteSpace?_eq_some_iff.mp ok
    have kept := sized.spaces _ _ found
    split
    · exact sized
    · exact { sized with spaces := sized.spaces.insert _ kept }
  | channel =>
    obtain ⟨ch, found, rfl⟩ := Tables.deleteChannel?_eq_some_iff.mp ok
    have kept := sized.channels _ _ found
    split
    · exact sized
    · exact { sized with channels := sized.channels.insert _ kept }
  | message =>
    obtain ⟨m, found, rfl⟩ := Tables.deleteMessage?_eq_some_iff.mp ok
    have kept := sized.messages _ _ found
    split
    · exact sized
    · exact { sized with messages := sized.messages.insert _ kept }

/-- A call that is answered has looked at every text that it stores. -/
theorem sized_of_effect (sized : t.Sized) (effect : Effect c t call l a u) : u.Sized := by
  cases effect with
  | look => exact sized
  | @createUser r i x u valid made ok =>
    obtain ⟨-, -, rfl⟩ := Tables.insertUser_eq_ok_iff.mp ok
    obtain ⟨shown, name⟩ : LengthUpTo 100 r.displayName ∧ LengthWithin 1 100 r.username := by
      simpa [CreateUser.problems] using valid
    subst made
    exact { sized with users := sized.users.insert _ ⟨name, length_getD shown (by decide)⟩ }
  | @createSpace owner r i x v u valid made ok joined =>
    obtain ⟨-, -, rfl⟩ := Tables.insertSpace_eq_ok_iff.mp ok
    obtain ⟨-, -, -, rfl⟩ := Tables.insertSpaceMember_eq_ok_iff.mp joined
    obtain ⟨description, name⟩ : LengthUpTo 1000 r.description ∧ LengthWithin 1 100 r.name := by
      simpa [CreateSpace.problems] using valid
    subst made
    exact { sized with spaces := sized.spaces.insert _ ⟨name, length_getD description (by decide)⟩ }
  | createChannel valid _ made ok =>
    obtain ⟨-, -, rfl⟩ := Tables.insertChannel_eq_ok_iff.mp ok
    subst made
    exact { sized with channels := sized.channels.insert _ (Request.problemUnless_eq_nil_iff.mp valid) }
  | @renameSpace actor space s r x u valid live _ made ok =>
    obtain ⟨found, -⟩ := Option.filter_eq_some_iff.mp live
    obtain ⟨-, kept⟩ := sized.spaces _ _ found
    obtain ⟨stored, -, -, rfl⟩ := Tables.updateSpace?_eq_some_iff.mp ok
    obtain ⟨description, name⟩ : LengthUpTo 1000 r.description ∧ LengthWithin 1 100 r.name := by
      simpa [RenameSpace.problems] using valid
    subst made
    exact { sized with spaces := sized.spaces.insert _ ⟨name, length_getD description kept⟩ }
  | renameChannel valid _ _ made ok =>
    obtain ⟨stored, -, -, rfl⟩ := Tables.updateChannel?_eq_some_iff.mp ok
    subst made
    exact { sized with channels := sized.channels.insert _ (Request.problemUnless_eq_nil_iff.mp valid) }
  | deleteContent ok => exact sized_of_delete? sized ok
  | postMessage valid _ made ok =>
    obtain ⟨-, -, -, rfl⟩ := Tables.insertMessage_eq_ok_iff.mp ok
    subst made
    exact { sized with messages := sized.messages.insert _ (Request.problemUnless_eq_nil_iff.mp valid) }
  | editMessage valid _ _ _ made ok =>
    obtain ⟨stored, -, -, rfl⟩ := Tables.updateMessage?_eq_some_iff.mp ok
    subst made
    exact { sized with messages := sized.messages.insert _ (Request.problemUnless_eq_nil_iff.mp valid) }
  | @attachMedia message m r i x u valid _ made ok =>
    obtain ⟨-, -, rfl⟩ := Tables.insertMedia_eq_ok_iff.mp ok
    obtain ⟨type, ref⟩ : LengthWithin 1 255 r.contentType ∧ LengthWithin 1 2048 r.storageRef := by
      simpa [AttachMedia.problems] using valid
    subst made
    exact { sized with media := sized.media.insert _ ⟨ref, type⟩ }
  | deleteMessageAs _ _ ok => exact sized_of_delete? sized (show ContentKind.delete? t .message _ _ = some u from ok)
  | addSpaceMember _ _ ok =>
    obtain ⟨-, -, -, rfl⟩ := Tables.insertSpaceMember_eq_ok_iff.mp ok
    exact { sized with }
  | addChannelMember _ _ _ ok =>
    obtain ⟨-, -, -, rfl⟩ := Tables.insertChannelMember_eq_ok_iff.mp ok
    exact { sized with }
  | leaveSpace =>
    rw [Tables.getD_removeSpaceMember?]
    exact { sized with }
  | leaveChannel =>
    rw [Tables.getD_removeChannelMember?]
    exact { sized with }
  | setSpaceRole _ ok =>
    obtain ⟨stored, -, -, rfl⟩ := Tables.setRole?_eq_some_iff.mp ok
    exact { sized with }
  | restrain valid _ made ok =>
    obtain ⟨-, rfl⟩ := Tables.putRestraint_eq_ok_iff.mp ok
    subst made
    exact { sized with restraints := sized.restraints.insert _ (Request.problemUnless_eq_nil_iff.mp valid) }
  | revokeRestraint =>
    rw [Tables.getD_removeRestraint?]
    exact { sized with restraints := sized.restraints.filter _ }
  | purgeExpired => exact { sized with restraints := sized.restraints.filter _ }

theorem Served.sized (h : Served t) : t.Sized := by
  induction h with
  | empty => exact .empty
  | answer _ effect ih => exact sized_of_effect ih effect

namespace System

variable {ι : Type} [DecidableEq ι]

/-- Whatever the clients of an empty store do side by side, with whatever texts, and whether their calls are answered or
refused: each stored text has a length within the bounds of its kind, counted in characters, and so has a reason that
was given. -/
theorem stored_texts_are_sized {ids : Generator} {ds : List Deed} {s : System ι} (course : Course (start ids) ds s) :
    s.store.committed.Sized := course.served.sized

/-- Message 4 has one character of two bytes, and an edit that would leave it none is refused. -/
theorem stored_texts_are_sized_edited :
    let hello : Message := ⟨⟨4⟩, ⟨3⟩, ⟨1⟩, "é", false, .ofMillis 0, .ofMillis 0⟩
    ∃ (ds : List Deed) (s : System Bool), Course (start Deployment.blank.ids) ds s ∧
      s.store.committed.messages.get? ⟨4⟩ = some hello ∧ s.store.committed.Sized := by
  intro hello
  let es : List Deployment.Event := [.call (.createUser ⟨"ann", none⟩), .call (.createSpace ⟨1⟩ ⟨"home", none⟩),
    .call (.createChannel ⟨2⟩ ⟨"news"⟩), .call (.addChannelMember ⟨3⟩ ⟨1⟩), .call (.postMessage ⟨3⟩ ⟨1⟩ ⟨"é"⟩),
    .call (.editMessage ⟨1⟩ ⟨4⟩ ⟨""⟩)]
  have course : Course (start Deployment.blank.ids) _ _ := course_of_events true Deployment.blank es
  exact ⟨_, _, course, by decide, stored_texts_are_sized course⟩

end System

end Service

end ChatSpaces
