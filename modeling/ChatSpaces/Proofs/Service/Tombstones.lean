import ChatSpaces.Proofs.Service.Content
import ChatSpaces.Proofs.Service.Course
import ChatSpaces.Proofs.Service.RestraintHistory
import ChatSpaces.Proofs.Service.Turns

/-!
# Under a tombstone

Nothing below a deleted space or channel is written any more, though each call looks for the tombstone in its own
way. What is left to do is to mark rows deleted and to remove members.
-/

namespace ChatSpaces.Service

open Time (Instant)

/-- The row is as it was, or one of the deeds has marked it deleted and nothing else has happened to it. -/
inductive Sealed {α : Type} [Markable α] (ds : List Deed) (a : α) : α → Prop
  | same : Sealed ds a a
  | mark {now} (live : Deletable.deleted a = false)
      (deed : .call now (.deleteContent (Markable.kind α) (Markable.id a)) (.ok .done) ∈ ds) :
      Sealed ds a (Deletable.mark now a)

def liesIn (t : Tables) (channel : Ident) (x : Media) : Bool :=
  (t.messages.get? x.message).any (·.channel = channel)

/-- Whatever the deeds are, the messages of the channel are the same but for marks, and so is their media. -/
structure Still (ds : List Deed) (channel : Ident) (t u : Tables) : Prop where
  messages : ∀ id, Option.Rel (Sealed ds) ((t.messages.get? id).filter (·.channel = channel))
    ((u.messages.get? id).filter (·.channel = channel))
  media : ∀ id, (u.media.get? id).filter (liesIn u channel) = (t.media.get? id).filter (liesIn t channel)

/-- What the deeds leave of a deleted space: its channels, which are the same but for marks, what lies in these,
and members who were members before. -/
structure SpaceFrozen (ds : List Deed) (space : Ident) (t u : Tables) : Prop where
  row : u.spaces.get? space = t.spaces.get? space
  channels : ∀ id, Option.Rel (Sealed ds) ((t.channels.get? id).filter (·.space = space))
    ((u.channels.get? id).filter (·.space = space))
  still : ∀ id c, t.channels.get? id = some c → c.space = space → Still ds id t u
  members : ∀ user m, u.spaceMembers.get? (space, user) = some m → t.spaceMembers.get? (space, user) = some m

/-- What the deeds leave of a deleted channel: the row, what lies in the channel, and members and restraints that
were there before; no restraint is issued. -/
structure ChannelFrozen (ds : List Deed) (channel : Ident) (t u : Tables) : Prop where
  row : u.channels.get? channel = t.channels.get? channel
  still : Still ds channel t u
  members : ∀ user m, u.channelMembers.get? (channel, user) = some m →
    t.channelMembers.get? (channel, user) = some m
  restraints : ∀ user r, u.restraint? (.channel channel) user = some r →
    t.restraint? (.channel channel) user = some r
  unissued : ∀ x ∈ ds, ∀ user r, ¬ x.Issues (.channel channel) user r

variable {ds es : List Deed} {t u v : Tables} {space channel : Ident} {x : Deed}

namespace Sealed

variable {α : Type} [Markable α] {a b c : α}

theorem mono (h : Sealed ds a b) (more : ds ⊆ es) : Sealed es a b := by
  cases h with
  | same => exact .same
  | mark live deed => exact .mark live (more deed)

theorem trans (ab : Sealed ds a b) (bc : Sealed es b c) : Sealed (ds ++ es) a c := by
  cases ab with
  | same => exact bc.mono (List.subset_append_right _ _)
  | mark live deed =>
    cases bc with
    | same => exact .mark live (List.mem_append_left _ deed)
    | mark again =>
      rw [Markable.deleted_mark] at again
      cases again

theorem rel_trans {x y z : Option α} (first : Option.Rel (Sealed ds) x y) (second : Option.Rel (Sealed es) y z) :
    Option.Rel (Sealed (ds ++ es)) x z := by
  cases first with
  | none =>
    cases second
    exact .none
  | some ab =>
    cases second with
    | some bc => exact .some (ab.trans bc)

theorem rel_refl (x : Option α) : Option.Rel (Sealed ds) x x := by
  cases x with
  | none => exact .none
  | some a => exact .some .same

theorem rel_outside {p : α → Bool} (before : p a = false) (after : p b = false) :
    Option.Rel (Sealed ds) ((some a).filter p) ((some b).filter p) := by
  rw [Option.filter_some_neg before, Option.filter_some_neg after]
  exact .none

theorem rel_new {p : α → Bool} (outside : p a = false) :
    Option.Rel (Sealed ds) ((none : Option α).filter p) ((some a).filter p) := by
  rw [Option.filter_none, Option.filter_some_neg outside]
  exact .none

theorem of_delete {now : Instant} :
    Sealed [.call now (.deleteContent (Markable.kind α) (Markable.id a)) (.ok .done)] a (marked now a) := by
  cases gone : Deletable.deleted a with
  | true =>
    rw [marked_eq_self gone]
    exact .same
  | false =>
    rw [marked_of_live gone]
    exact .mark gone (.head _)

theorem rel_delete {p : α → Bool} {now : Instant} (same : p (marked now a) = p a) :
    Option.Rel (Sealed [.call now (.deleteContent (Markable.kind α) (Markable.id a)) (.ok .done)])
      ((some a).filter p) ((some (marked now a)).filter p) := by
  rw [Option.filter_some, Option.filter_some, same]
  cases p a with
  | false => exact .none
  | true => exact .some .of_delete

end Sealed

theorem space?_live_eq_none {s : Space} (found : t.spaces.get? space = some s) (gone : s.deleted = true) :
    t.space? .live space = none := by
  rw [Tables.space?, found, Option.filter_some, Visibility.admits_live, gone]
  rfl

namespace Still

theorem refl (channel : Ident) (t : Tables) : Still [] channel t t where
  messages _ := Sealed.rel_refl _
  media _ := rfl

theorem trans (first : Still ds channel t u) (second : Still es channel u v) : Still (ds ++ es) channel t v where
  messages id := Sealed.rel_trans (first.messages id) (second.messages id)
  media id := (second.media id).trans (first.media id)

/-- A deed writes nothing in a channel that is not open. -/
theorem of_leads (built : t.Built) (leads : x.Leads t u) (lasts : x.isTeardown = false)
    (shut : ¬ t.OpenChannel channel) : Still [x] channel t u where
  messages id := by
    have amends := leads.amends built lasts id
    have own : ∀ m, t.messages.get? id = some m → m.id = id := built.keyed.messages id
    have outside : ∀ place, t.OpenChannel place → decide (place = channel) = false := by
      intro place opened
      apply decide_eq_false
      rintro rfl
      exact shut opened
    generalize t.messages.get? id = before at amends own
    generalize u.messages.get? id = after at amends
    cases amends with
    | post opened => exact Sealed.rel_new (outside _ opened)
    | edit exposed => exact Sealed.rel_outside (outside _ exposed.2) (outside _ exposed.2)
    | @delete now m =>
      cases own m rfl
      exact Sealed.rel_delete (by rw [marked_channel])
    | @withdraw now actor m exposed =>
      exact Sealed.rel_outside (outside _ exposed.2) (by rw [marked_channel]; exact outside _ exposed.2)
    | rest => exact Sealed.rel_refl _
  media id := by
    have kept := leads.persists lasts
    have same : ∀ y m, t.messages.get? y.message = some m → liesIn u channel y = decide (m.channel = channel) := by
      intro y m found
      obtain ⟨m', later, settled⟩ := kept.messages _ _ found
      have place : m'.channel = m.channel := congrArg (·.2.1) settled.1
      rw [liesIn, later, Option.any_some, place]
    have agree : (t.media.get? id).filter (liesIn u channel) = (t.media.get? id).filter (liesIn t channel) := by
      cases stored : t.media.get? id with
      | none => exact rfl
      | some y =>
        obtain ⟨m, found⟩ := Table.contains_eq_true_iff.mp (built.linked.mediaMessage _ _ stored)
        rw [Option.filter_some, Option.filter_some, same y m found, liesIn, found, Option.any_some]
    have enriches := leads.enriches lasts
    generalize u.media = after at enriches
    generalize before : t.media = media at enriches agree
    cases enriches with
    | rest => exact agree
    | @attach now r y m _ fresh found exposed =>
      rw [Table.get?_insert]
      by_cases own : id = y.id
      · have shown : liesIn u channel y = false := by
          rw [same y m found]
          apply decide_eq_false
          rintro rfl
          exact shut exposed.2
        rw [if_pos own, Option.filter_some, shown, own, Table.get?_eq_none_of_contains fresh]
        rfl
      · rw [if_neg own]
        exact agree

end Still

section Members

variable {user : Ident}

theorem spaceMember_of_leads {s : Space} (leads : x.Leads t u) (lasts : x.isTeardown = false)
    (found : t.spaces.get? space = some s) (gone : s.deleted = true) {m : SpaceMember}
    (member : u.spaceMembers.get? (space, user) = some m) : t.spaceMembers.get? (space, user) = some m := by
  have dead := space?_live_eq_none found gone
  cases leads with
  | refused => exact member
  | teardown => cases lasts
  | @answered c call l a u effect =>
    cases seats : call.seats with
    | false =>
      rw [(members_of_effect effect seats).1] at member
      exact member
    | true =>
      cases effect with
      | look reads =>
        rw [Call.seats_of_isRead reads] at seats
        cases seats
      | @createSpace owner r i _ _ _ _ made ok joined =>
        obtain ⟨-, fresh, rfl⟩ := Tables.insertSpace_eq_ok_iff.mp ok
        obtain ⟨-, -, -, rfl⟩ := Tables.insertSpaceMember_eq_ok_iff.mp joined
        subst made
        have other : (space, user) ≠ (i, owner) := by
          rintro ⟨⟩
          rw [Table.contains_of_get? found] at fresh
          cases fresh
        rwa [Table.get?_insert, if_neg other] at member
      | @addSpaceMember space' _ user' _ _ _ live made ok =>
        obtain ⟨-, -, -, rfl⟩ := Tables.insertSpaceMember_eq_ok_iff.mp ok
        subst made
        have other : (space, user) ≠ (space', user') := by
          rintro ⟨⟩
          rw [dead] at live
          cases live
        rwa [Table.get?_insert, if_neg other] at member
      | @setSpaceRole space' _ user' _ _ _ live ok =>
        obtain ⟨stored, -, -, rfl⟩ := Tables.setRole?_eq_some_iff.mp ok
        have other : (space, user) ≠ (space', user') := by
          rintro ⟨⟩
          rw [dead] at live
          cases live
        rwa [Table.get?_insert, if_neg other] at member
      | leaveSpace =>
        rw [Tables.getD_removeSpaceMember?] at member
        exact Table.get?_of_get?_filter member
      | addChannelMember _ _ _ ok =>
        obtain ⟨-, -, -, rfl⟩ := Tables.insertChannelMember_eq_ok_iff.mp ok
        exact member
      | leaveChannel =>
        rw [Tables.getD_removeChannelMember?] at member
        exact member
      | _ => cases seats

theorem channelMember_of_leads (leads : x.Leads t u) (lasts : x.isTeardown = false)
    (gone : ∀ ch, ¬ LiveChannel t channel ch) {m : ChannelMember}
    (member : u.channelMembers.get? (channel, user) = some m) : t.channelMembers.get? (channel, user) = some m := by
  cases leads with
  | refused => exact member
  | teardown => cases lasts
  | @answered c call l a u effect =>
    cases seats : call.seats with
    | false =>
      rw [(members_of_effect effect seats).2] at member
      exact member
    | true =>
      cases effect with
      | look reads =>
        rw [Call.seats_of_isRead reads] at seats
        cases seats
      | createSpace _ _ ok joined =>
        obtain ⟨-, -, rfl⟩ := Tables.insertSpace_eq_ok_iff.mp ok
        obtain ⟨-, -, -, rfl⟩ := Tables.insertSpaceMember_eq_ok_iff.mp joined
        exact member
      | addSpaceMember _ _ ok =>
        obtain ⟨-, -, -, rfl⟩ := Tables.insertSpaceMember_eq_ok_iff.mp ok
        exact member
      | setSpaceRole _ ok =>
        obtain ⟨stored, -, -, rfl⟩ := Tables.setRole?_eq_some_iff.mp ok
        exact member
      | leaveSpace =>
        rw [Tables.getD_removeSpaceMember?] at member
        exact Table.get?_of_get?_filter member
      | @addChannelMember channel' ch user' _ _ live _ made ok =>
        obtain ⟨-, -, -, rfl⟩ := Tables.insertChannelMember_eq_ok_iff.mp ok
        subst made
        have other : (channel, user) ≠ (channel', user') := by
          rintro ⟨⟩
          exact gone ch (channel?_live_eq_some_iff.mp live)
        rwa [Table.get?_insert, if_neg other] at member
      | leaveChannel =>
        rw [Tables.getD_removeChannelMember?] at member
        exact Table.get?_of_get?_filter member
      | _ => cases seats

theorem not_issues_of_leads (leads : x.Leads t u) (gone : ∀ ch, ¬ LiveChannel t channel ch) {r : Restraint} :
    ¬ x.Issues (.channel channel) user r := by
  intro issues
  cases issues with
  | restrain =>
    cases leads with
    | answered effect =>
      cases effect with
      | look reads => cases reads
      | restrain _ live =>
        obtain ⟨ch, found⟩ := Option.isSome_iff_exists.mp live
        exact gone ch (channel?_live_eq_some_iff.mp found)

theorem restraint?_of_leads (leads : x.Leads t u) (lasts : x.isTeardown = false)
    (gone : ∀ ch, ¬ LiveChannel t channel ch) {r : Restraint}
    (found : u.restraint? (.channel channel) user = some r) : t.restraint? (.channel channel) user = some r := by
  have unissued : ¬ x.Issues (.channel channel) user r := not_issues_of_leads leads gone
  cases leads with
  | refused => exact found
  | teardown => cases lasts
  | answered effect =>
    rcases issues_or_stays effect found with issues | ⟨stays, -⟩
    · exact absurd issues unissued
    · exact stays

end Members

namespace SpaceFrozen

theorem refl (space : Ident) (t : Tables) : SpaceFrozen [] space t t where
  row := rfl
  channels _ := Sealed.rel_refl _
  still id _ _ _ := .refl id t
  members _ _ member := member

theorem trans (first : SpaceFrozen ds space t u) (second : SpaceFrozen es space u v) :
    SpaceFrozen (ds ++ es) space t v where
  row := second.row.trans first.row
  channels id := Sealed.rel_trans (first.channels id) (second.channels id)
  still id c found within := by
    have rows := first.channels id
    rw [found, Option.filter_some, if_pos (decide_eq_true within)] at rows
    generalize later : (u.channels.get? id).filter _ = after at rows
    cases rows with
    | some sealed =>
      obtain ⟨found', within'⟩ := Option.filter_eq_some_iff.mp later
      exact (first.still id c found within).trans (second.still id _ found' (of_decide_eq_true within'))
  members user m member := first.members user m (second.members user m member)

theorem of_leads (built : t.Built) (leads : x.Leads t u) (lasts : x.isTeardown = false) {s : Space}
    (found : t.spaces.get? space = some s) (gone : s.deleted = true) : SpaceFrozen [x] space t u where
  row := by
    obtain ⟨_, later, settled⟩ := (leads.persists lasts).spaces _ _ found
    rw [later, found, settled.2 gone]
  channels id := by
    have reshapes := leads.reshapes built lasts id
    have own : ∀ c, t.channels.get? id = some c → c.id = id := built.keyed.channels id
    have dead : ¬ LiveSpace t space := by
      rw [liveSpace_iff found, gone]
      exact Bool.noConfusion
    have opened : ∀ c, t.channels.get? id = some c → t.OpenChannel id → decide (c.space = space) = false := by
      rintro c there ⟨c', s', there', -, space', live⟩
      cases there.symm.trans there'
      apply decide_eq_false
      rintro rfl
      exact dead ⟨s', space', live⟩
    generalize t.channels.get? id = before at reshapes own opened
    generalize u.channels.get? id = after at reshapes
    cases reshapes with
    | @create now space' r live =>
      have other : decide (space' = space) = false := by
        apply decide_eq_false
        rintro rfl
        exact dead live
      exact Sealed.rel_new other
    | rename shut =>
      have outside := opened _ rfl shut
      exact Sealed.rel_outside outside outside
    | @delete now c =>
      cases own c rfl
      exact Sealed.rel_delete (by rw [marked_space])
    | rest => exact Sealed.rel_refl _
  still id c there within := by
    refine .of_leads built leads lasts ?_
    rintro ⟨c', s', there', -, space', live⟩
    cases there.symm.trans there'
    rw [within, found] at space'
    cases space'
    cases gone.symm.trans live
  members user m member := spaceMember_of_leads leads lasts found gone member

end SpaceFrozen

namespace ChannelFrozen

theorem refl (channel : Ident) (t : Tables) : ChannelFrozen [] channel t t where
  row := rfl
  still := .refl channel t
  members _ _ member := member
  restraints _ _ found := found
  unissued _ mem := nomatch mem

theorem trans (first : ChannelFrozen ds channel t u) (second : ChannelFrozen es channel u v) :
    ChannelFrozen (ds ++ es) channel t v where
  row := second.row.trans first.row
  still := first.still.trans second.still
  members user m member := first.members user m (second.members user m member)
  restraints user r found := first.restraints user r (second.restraints user r found)
  unissued x mem := by
    rcases List.mem_append.mp mem with earlier | later
    · exact first.unissued x earlier
    · exact second.unissued x later

theorem of_leads (built : t.Built) (leads : x.Leads t u) (lasts : x.isTeardown = false) {c : Channel}
    (found : t.channels.get? channel = some c) (gone : c.deleted = true) : ChannelFrozen [x] channel t u := by
  have dead : ∀ ch, ¬ LiveChannel t channel ch := by
    rintro ch ⟨found', stays⟩
    cases found.symm.trans found'
    cases gone.symm.trans stays
  constructor
  case row =>
    obtain ⟨_, later, settled⟩ := (leads.persists lasts).channels _ _ found
    rw [later, found, settled.2 gone]
  case still =>
    refine .of_leads built leads lasts ?_
    rintro ⟨ch, s, found', stays, -, -⟩
    exact dead ch ⟨found', stays⟩
  case members => exact fun user m member => channelMember_of_leads leads lasts dead member
  case restraints => exact fun user r there => restraint?_of_leads leads lasts dead there
  case unissued =>
    intro y mem user r
    cases List.mem_singleton.mp mem
    exact not_issues_of_leads leads dead

end ChannelFrozen

namespace System

variable {ι : Type} [DecidableEq ι]

end System

end ChatSpaces.Service
