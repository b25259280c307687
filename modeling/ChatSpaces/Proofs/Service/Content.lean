import ChatSpaces.Proofs.Service.Posting
import ChatSpaces.Proofs.Service.Reading
import ChatSpaces.Proofs.Service.Record

/-!
# What deeds do to content

A deed posts, edits or deletes a message, makes, renames or deletes a channel, attaches media, or leaves all of
them as they are. Which of these it does can be seen from the deed alone. Whoever writes has found the place open;
only a deletion does not ask for what is above.
-/

namespace ChatSpaces.Service

open Time (Instant)

class Markable (α : Type) extends Deletable α where
  kind : ContentKind
  id : α → Ident
  deleted_mark : ∀ now a, deleted (mark now a) = true
  id_mark : ∀ now a, id (mark now a) = id a

instance : Markable Space where
  kind := .space
  id := (·.id)
  deleted_mark _ _ := rfl
  id_mark _ _ := rfl

instance : Markable Channel where
  kind := .channel
  id := (·.id)
  deleted_mark _ _ := rfl
  id_mark _ _ := rfl

instance : Markable Message where
  kind := .message
  id := (·.id)
  deleted_mark _ _ := rfl
  id_mark _ _ := rfl

def marked {α : Type} [Deletable α] (now : Instant) (a : α) : α :=
  if Deletable.deleted a then a else Deletable.mark now a

namespace Deed

variable (i : Ident)

def posted? : Deed → Option Message
  | .call _ (.postMessage ..) (.ok (.entity (some (.message m)))) => if m.id = i then some m else none
  | _ => none

def edit? : Deed → Option String
  | .call _ (.editMessage _ message r) (.ok _) => if message = i then some r.body else none
  | _ => none

/-- The message was deleted, by whoever it was. -/
def deletes : Deed → Bool
  | .call _ (.deleteContent .message message) (.ok _) => message = i
  | .call _ (.deleteMessageAs _ message) (.ok _) => message = i
  | _ => false

def attached? : Deed → Option Media
  | .call _ (.attachMedia message _) (.ok (.entity (some (.media x)))) => if message = i then some x else none
  | _ => none

theorem posted?_postMessage {now : Instant} {channel author : Ident} {r : PostMessage} {m : Message} :
    (Deed.call now (.postMessage channel author r) (.ok (.one .message m))).posted? i =
      if m.id = i then some m else none := rfl

theorem attached?_attachMedia {now : Instant} {message : Ident} {r : AttachMedia} {x : Media} :
    (Deed.call now (.attachMedia message r) (.ok (.one .media x))).attached? i =
      if message = i then some x else none := rfl

structure Spares (x : Deed) : Prop where
  posted : x.posted? i = none
  edit : x.edit? i = none
  deletes : x.deletes i = false

/-- What a deed does to the message under the identifier: the row before it and after it. -/
inductive Amends (t : Tables) : Deed → Option Message → Option Message → Prop
  | post {now channel author r} (opened : t.OpenChannel channel) :
      Amends t (.call now (.postMessage channel author r)
          (.ok (.one .message ⟨i, channel, author, r.body, false, now, now⟩)))
        none (some ⟨i, channel, author, r.body, false, now, now⟩)
  | edit {now r m} (exposed : t.Exposed m) :
      Amends t (.call now (.editMessage m.author i r) (.ok (.one .message (m.edit r.body now))))
        (some m) (some (m.edit r.body now))
  | delete {now m} : Amends t (.call now (.deleteContent .message i) (.ok .done)) (some m) (some (marked now m))
  | withdraw {now actor m} (exposed : t.Exposed m) :
      Amends t (.call now (.deleteMessageAs actor i) (.ok .done)) (some m) (some (marked now m))
  | rest {x row} (spares : x.Spares i) : Amends t x row row

inductive Reshapes (t : Tables) : Deed → Option Channel → Option Channel → Prop
  | create {now space r} (live : LiveSpace t space) :
      Reshapes t (.call now (.createChannel space r) (.ok (.one .channel ⟨i, space, r.name, false, now, now⟩)))
        none (some ⟨i, space, r.name, false, now, now⟩)
  | rename {now actor r c} (opened : t.OpenChannel i) :
      Reshapes t (.call now (.renameChannel actor i r)
          (.ok (.one .channel { c with name := r.name, updatedAt := now })))
        (some c) (some { c with name := r.name, updatedAt := now })
  | delete {now c} : Reshapes t (.call now (.deleteContent .channel i) (.ok .done)) (some c) (some (marked now c))
  | rest {x row} : Reshapes t x row row

inductive Enriches (t : Tables) : Deed → Table Ident Media → Table Ident Media → Prop
  | attach {now r x m before} (fresh : before.contains x.id = false)
      (found : t.messages.get? x.message = some m) (exposed : t.Exposed m) :
      Enriches t (.call now (.attachMedia x.message r) (.ok (.one .media x))) before (before.insert x.id x)
  | rest {x media} (spares : ∀ i, x.attached? i = none) : Enriches t x media media

end Deed

namespace Call

def tells : Call → Bool
  | postMessage .. | editMessage .. | deleteContent .. | deleteMessageAs .. => true
  | _ => false

def builds : Call → Bool
  | createChannel .. | renameChannel .. | deleteContent .. => true
  | _ => false

def attaches : Call → Bool
  | attachMedia .. => true
  | _ => false

structure Confined (call : Call) (t u : Tables) : Prop where
  messages : call.tells = false → u.messages = t.messages
  channels : call.builds = false → u.channels = t.channels
  media : call.attaches = false → u.media = t.media

theorem Confined.refl (call : Call) (t : Tables) : call.Confined t t :=
  ⟨fun _ => rfl, fun _ => rfl, fun _ => rfl⟩

end Call

section Marks

variable {t u : Tables} {id : Ident} {now : Instant}

theorem marked_eq_self {α : Type} [Deletable α] {a : α} (gone : Deletable.deleted a = true) : marked now a = a :=
  if_pos gone

theorem marked_of_live {α : Type} [Deletable α] {a : α} (live : Deletable.deleted a = false) :
    marked now a = Deletable.mark now a := if_neg (by rw [live]; exact Bool.false_ne_true)

theorem marked_given (now : Instant) (m : Message) : (marked now m).given = m.given := by
  unfold marked
  split <;> rfl

theorem marked_channel (now : Instant) (m : Message) : (marked now m).channel = m.channel := by
  unfold marked
  split <;> rfl

theorem marked_body (now : Instant) (m : Message) : (marked now m).body = m.body := by
  unfold marked
  split <;> rfl

theorem marked_deleted (now : Instant) (m : Message) : (marked now m).deleted = true := by
  unfold marked
  split
  · next gone => exact gone
  · rfl

theorem marked_space (now : Instant) (c : Channel) : (marked now c).space = c.space := by
  unfold marked
  split <;> rfl

theorem bury?_eq {κ α : Type} [Key κ] [Deletable α] (x : Table κ α) (k : κ) (now : Instant) :
    x.bury? k now = (x.get? k).map fun a => x.insert k (marked now a) := by
  unfold Table.bury?
  cases found : x.get? k with
  | none => rfl
  | some a =>
    cases gone : Deletable.deleted a with
    | true => simp [gone, marked_eq_self gone, Table.insert_eq_self found]
    | false => simp [gone, marked_of_live gone]

theorem buried_eq_some_iff_marked {κ α : Type} [Key κ] [Deletable α] {x : Table κ α} {k : κ}
    {put : Table κ α → Tables} : (x.bury? k now).map put = some u ↔
      ∃ a, x.get? k = some a ∧ u = put (x.insert k (marked now a)) := by
  simp only [bury?_eq, Option.map_map, Option.map_eq_some_iff, Function.comp_apply, eq_comm (a := u)]

end Marks

section Frame

variable {c : Context} {t u : Tables} {call : Call} {l : List Ident} {a : Answer}

theorem not_content_of_isRead (reads : call.isRead = true) :
    call.tells = false ∧ call.builds = false ∧ call.attaches = false := by
  cases call with
  | createChannel | renameChannel | deleteContent | postMessage | editMessage | attachMedia | deleteMessageAs =>
    cases reads
  | _ => exact ⟨rfl, rfl, rfl⟩

theorem confined_of_effect (effect : Effect c t call l a u) : call.Confined t u := by
  cases effect with
  | look => exact .refl _ t
  | createUser _ _ ok =>
    obtain ⟨-, -, rfl⟩ := Tables.insertUser_eq_ok_iff.mp ok
    exact { Call.Confined.refl _ t with }
  | createSpace _ _ ok joined =>
    obtain ⟨-, -, rfl⟩ := Tables.insertSpace_eq_ok_iff.mp ok
    obtain ⟨-, -, -, rfl⟩ := Tables.insertSpaceMember_eq_ok_iff.mp joined
    exact { Call.Confined.refl _ t with }
  | createChannel _ _ _ ok =>
    obtain ⟨-, -, rfl⟩ := Tables.insertChannel_eq_ok_iff.mp ok
    exact { Call.Confined.refl _ t with channels := nofun }
  | renameSpace _ _ _ _ ok =>
    obtain ⟨stored, -, -, rfl⟩ := Tables.updateSpace?_eq_some_iff.mp ok
    exact { Call.Confined.refl _ t with }
  | renameChannel _ _ _ _ ok =>
    obtain ⟨stored, -, -, rfl⟩ := Tables.updateChannel?_eq_some_iff.mp ok
    exact { Call.Confined.refl _ t with channels := nofun }
  | @deleteContent kind id u ok =>
    cases kind with
    | space =>
      obtain ⟨s, -, rfl⟩ := Tables.deleteSpace?_eq_some_iff.mp ok
      split <;> exact { Call.Confined.refl _ t with }
    | channel =>
      obtain ⟨ch, -, rfl⟩ := buried_eq_some_iff_marked.mp ok
      exact { Call.Confined.refl _ t with channels := nofun }
    | message =>
      obtain ⟨m, -, rfl⟩ := buried_eq_some_iff_marked.mp ok
      exact { Call.Confined.refl _ t with messages := nofun }
  | postMessage _ _ _ ok =>
    obtain ⟨-, -, -, rfl⟩ := Tables.insertMessage_eq_ok_iff.mp ok
    exact { Call.Confined.refl _ t with messages := nofun }
  | editMessage _ _ _ _ _ ok =>
    obtain ⟨stored, -, -, rfl⟩ := Tables.updateMessage?_eq_some_iff.mp ok
    exact { Call.Confined.refl _ t with messages := nofun }
  | attachMedia _ _ _ ok =>
    obtain ⟨-, -, rfl⟩ := Tables.insertMedia_eq_ok_iff.mp ok
    exact { Call.Confined.refl _ t with media := nofun }
  | deleteMessageAs _ _ ok =>
    obtain ⟨m, -, rfl⟩ := buried_eq_some_iff_marked.mp ok
    exact { Call.Confined.refl _ t with messages := nofun }
  | addSpaceMember _ _ ok =>
    obtain ⟨-, -, -, rfl⟩ := Tables.insertSpaceMember_eq_ok_iff.mp ok
    exact { Call.Confined.refl _ t with }
  | addChannelMember _ _ _ ok =>
    obtain ⟨-, -, -, rfl⟩ := Tables.insertChannelMember_eq_ok_iff.mp ok
    exact { Call.Confined.refl _ t with }
  | leaveSpace =>
    rw [Tables.getD_removeSpaceMember?]
    exact { Call.Confined.refl _ t with }
  | leaveChannel =>
    rw [Tables.getD_removeChannelMember?]
    exact { Call.Confined.refl _ t with }
  | setSpaceRole _ ok =>
    obtain ⟨stored, -, -, rfl⟩ := Tables.setRole?_eq_some_iff.mp ok
    exact { Call.Confined.refl _ t with }
  | restrain _ _ _ ok =>
    obtain ⟨-, rfl⟩ := Tables.putRestraint_eq_ok_iff.mp ok
    exact { Call.Confined.refl _ t with }
  | revokeRestraint =>
    rw [Tables.getD_removeRestraint?]
    exact { Call.Confined.refl _ t with }
  | purgeExpired => exact { Call.Confined.refl _ t with }

end Frame

section Spares

variable {i : Ident} {now : Instant} {call : Call} {result : Except Refusal Answer}

theorem spares_of_not_tells (apart : call.tells = false) : (Deed.call now call result).Spares i := by
  cases call with
  | postMessage | editMessage | deleteContent | deleteMessageAs => cases apart
  | _ => exact ⟨rfl, rfl, rfl⟩

theorem spares_of_refused {r : Refusal} : (Deed.call now call (.error r)).Spares i := by
  cases call with
  | deleteContent kind id => cases kind <;> exact ⟨rfl, rfl, rfl⟩
  | _ => exact ⟨rfl, rfl, rfl⟩

theorem attached?_of_not_attaches (apart : call.attaches = false) : (Deed.call now call result).attached? i = none := by
  cases call with
  | attachMedia => cases apart
  | _ => rfl

theorem attached?_of_refused {r : Refusal} : (Deed.call now call (.error r)).attached? i = none := by
  cases call <;> rfl

end Spares

section Rows

variable {c : Context} {t u : Tables} {call : Call} {l : List Ident} {a : Answer} {i k : Ident} {x : Deed}

/-- A message that is written is the one under the identifier, or the deed has nothing to do with that one. -/
theorem amends_of_insert {m : Message} (own : i = k → x.Amends i t (t.messages.get? i) (some m))
    (other : i ≠ k → x.Spares i) : x.Amends i t (t.messages.get? i) ((t.messages.insert k m).get? i) := by
  rw [Table.get?_insert]
  by_cases same : i = k
  · rw [if_pos same]
    exact own same
  · rw [if_neg same]
    exact .rest (other same)

theorem openChannel_of_verdict? {channel user : Ident} (keyed : t.Keyed) (linked : t.Linked)
    (allowed : verdict? c t channel user = some none) : t.OpenChannel channel := by
  obtain ⟨ch, ⟨found, stays⟩, ⟨s, space, live⟩, -⟩ :=
    (denial?_eq_none_iff keyed linked).mp (verdict?_eq_some_none_iff.mp allowed)
  exact ⟨ch, s, found, stays, space, live⟩

theorem amends_of_effect (built : t.Built) (effect : Effect c t call l a u) (i : Ident) :
    (Deed.call c.now call (.ok a)).Amends i t (t.messages.get? i) (u.messages.get? i) := by
  cases tells : call.tells with
  | false =>
    rw [(confined_of_effect effect).messages tells]
    exact .rest (spares_of_not_tells tells)
  | true =>
    cases effect with
    | @postMessage channel author r j x u _ allowed made ok =>
      obtain ⟨-, -, fresh, rfl⟩ := Tables.insertMessage_eq_ok_iff.mp ok
      subst made
      refine amends_of_insert ?_ ?_
      · rintro rfl
        rw [Table.get?_eq_none_of_contains fresh]
        exact .post (openChannel_of_verdict? built.keyed built.linked allowed)
      · intro other
        exact ⟨if_neg (Ne.symm other), rfl, rfl⟩
    | @editMessage actor message m r x u _ live author _ made ok =>
      obtain ⟨found, exposed⟩ := Tables.message?_live_eq_some_iff.mp live
      have own : m.id = message := built.keyed.messages _ _ found
      obtain ⟨stored, found', -, rfl⟩ := Tables.updateMessage?_eq_some_iff.mp ok
      subst made author own
      cases found.symm.trans found'
      refine amends_of_insert ?_ ?_
      · rintro rfl
        rw [Message.edit, found]
        exact .edit exposed
      · intro other
        exact ⟨rfl, if_neg (Ne.symm other), rfl⟩
    | @deleteContent kind id u ok =>
      cases kind with
      | space =>
        obtain ⟨s, -, rfl⟩ := Tables.deleteSpace?_eq_some_iff.mp ok
        split <;> exact .rest ⟨rfl, rfl, rfl⟩
      | channel =>
        obtain ⟨ch, -, rfl⟩ := buried_eq_some_iff_marked.mp ok
        exact .rest ⟨rfl, rfl, rfl⟩
      | message =>
        obtain ⟨m, found, rfl⟩ := buried_eq_some_iff_marked.mp ok
        refine amends_of_insert ?_ ?_
        · rintro rfl
          rw [found]
          exact .delete
        · intro other
          exact ⟨rfl, rfl, decide_eq_false (Ne.symm other)⟩
    | deleteMessageAs live _ ok =>
      obtain ⟨found, exposed⟩ := Tables.message?_live_eq_some_iff.mp live
      obtain ⟨m, found', rfl⟩ := buried_eq_some_iff_marked.mp ok
      cases found.symm.trans found'
      refine amends_of_insert ?_ ?_
      · rintro rfl
        rw [found]
        exact .withdraw exposed
      · intro other
        exact ⟨rfl, rfl, decide_eq_false (Ne.symm other)⟩
    | look reads =>
      rw [(not_content_of_isRead reads).1] at tells
      cases tells
    | _ => cases tells

theorem reshapes_of_insert {ch : Channel} (own : i = k → x.Reshapes i t (t.channels.get? i) (some ch)) :
    x.Reshapes i t (t.channels.get? i) ((t.channels.insert k ch).get? i) := by
  rw [Table.get?_insert]
  by_cases same : i = k
  · rw [if_pos same]
    exact own same
  · rw [if_neg same]
    exact .rest

theorem reshapes_of_effect (built : t.Built) (effect : Effect c t call l a u) (i : Ident) :
    (Deed.call c.now call (.ok a)).Reshapes i t (t.channels.get? i) (u.channels.get? i) := by
  cases builds : call.builds with
  | false =>
    rw [(confined_of_effect effect).channels builds]
    exact .rest
  | true =>
    cases effect with
    | createChannel _ live made ok =>
      obtain ⟨-, fresh, rfl⟩ := Tables.insertChannel_eq_ok_iff.mp ok
      obtain ⟨found, stays⟩ := Option.filter_eq_some_iff.mp live
      subst made
      refine reshapes_of_insert ?_
      rintro rfl
      rw [Table.get?_eq_none_of_contains fresh]
      exact .create ⟨_, found, by simpa using stays⟩
    | @renameChannel actor channel j r x u _ live _ made ok =>
      obtain ⟨joined, within⟩ := Option.filter_eq_some_iff.mp live
      have opened : t.OpenChannel channel := Tables.openChannel_iff.mpr ⟨j, joined, within⟩
      obtain ⟨found, -, -⟩ := Tables.channelInSpace?_live_eq_some_iff.mp joined
      have own : j.channel.id = channel := built.keyed.channels _ _ found
      obtain ⟨stored, found', -, rfl⟩ := Tables.updateChannel?_eq_some_iff.mp ok
      subst made own
      cases found.symm.trans found'
      refine reshapes_of_insert ?_
      rintro rfl
      rw [found]
      exact .rename opened
    | @deleteContent kind id u ok =>
      cases kind with
      | space =>
        obtain ⟨s, -, rfl⟩ := Tables.deleteSpace?_eq_some_iff.mp ok
        split <;> exact .rest
      | channel =>
        obtain ⟨ch, found, rfl⟩ := buried_eq_some_iff_marked.mp ok
        refine reshapes_of_insert ?_
        rintro rfl
        rw [found]
        exact .delete
      | message =>
        obtain ⟨m, -, rfl⟩ := buried_eq_some_iff_marked.mp ok
        exact .rest
    | look reads =>
      rw [(not_content_of_isRead reads).2.1] at builds
      cases builds
    | _ => cases builds

theorem enriches_of_effect (effect : Effect c t call l a u) :
    (Deed.call c.now call (.ok a)).Enriches t t.media u.media := by
  cases attaches : call.attaches with
  | false =>
    rw [(confined_of_effect effect).media attaches]
    exact .rest fun i => attached?_of_not_attaches attaches
  | true =>
    cases effect with
    | attachMedia _ live made ok =>
      obtain ⟨-, fresh, rfl⟩ := Tables.insertMedia_eq_ok_iff.mp ok
      obtain ⟨found, exposed⟩ := Tables.message?_live_eq_some_iff.mp live
      subst made
      exact .attach fresh found exposed
    | look reads =>
      rw [(not_content_of_isRead reads).2.2] at attaches
      cases attaches
    | _ => cases attaches

end Rows

section Leads

variable {t u : Tables} {x : Deed}

theorem Deed.Leads.amends (built : t.Built) (leads : x.Leads t u) (lasts : x.isTeardown = false) (i : Ident) :
    x.Amends i t (t.messages.get? i) (u.messages.get? i) := by
  cases leads with
  | answered effect => exact amends_of_effect built effect i
  | refused => exact .rest spares_of_refused
  | teardown => cases lasts

theorem Deed.Leads.reshapes (built : t.Built) (leads : x.Leads t u) (lasts : x.isTeardown = false) (i : Ident) :
    x.Reshapes i t (t.channels.get? i) (u.channels.get? i) := by
  cases leads with
  | answered effect => exact reshapes_of_effect built effect i
  | refused => exact .rest
  | teardown => cases lasts

theorem Deed.Leads.enriches (leads : x.Leads t u) (lasts : x.isTeardown = false) : x.Enriches t t.media u.media := by
  cases leads with
  | answered effect => exact enriches_of_effect effect
  | refused => exact .rest fun i => attached?_of_refused
  | teardown => cases lasts

end Leads

end ChatSpaces.Service
