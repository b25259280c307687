import ChatSpaces.Proofs.Tables.Integrity
import Mathlib.Data.List.Sort

/-!
# Listings

A listing shows some rows of one table in rising order. The members of a space or of a channel are a range of their
table: the pairs that begin with an identifier are those from its pair with the least identifier to its pair with the
greatest. The restraints of a scope may be come across in any order, and are sorted by user, of whom there is one for
each. However a listing is made, it is what going through the whole table finds, and a new row is put into one listing
of its table.
-/

namespace ChatSpaces

namespace Key

theorem rank_pair_lt_iff {p q : Ident × Ident} : rank p < rank q ↔ p.1 < q.1 ∨ p.1 = q.1 ∧ p.2 < q.2 := by
  have := p.2.le_toInt
  have := p.2.toInt_le
  have := q.2.le_toInt
  have := q.2.toInt_le
  rw [← Ident.toInt_inj]
  change p.1.toInt * 18446744073709551616 + p.2.toInt < q.1.toInt * 18446744073709551616 + q.2.toInt ↔
    p.1.toInt < q.1.toInt ∨ p.1.toInt = q.1.toInt ∧ p.2.toInt < q.2.toInt
  omega

/-- The pairs that begin with an identifier stand together, from its pair with the least one to that with the greatest,
both included. -/
theorem within_pairs_iff {i : Ident} {p : Ident × Ident} :
    rank (i, Ident.least) ≤ rank p ∧ rank p ≤ rank (i, Ident.greatest) ↔ p.1 = i := by
  have low : ¬ p.2 < Ident.least := Int.not_lt.mpr p.2.le_toInt
  have high : ¬ Ident.greatest < p.2 := Int.not_lt.mpr p.2.toInt_le
  rw [← Int.not_lt, ← Int.not_lt, rank_pair_lt_iff, rank_pair_lt_iff]
  simp only [low, high, and_false, or_false, ← Ident.toInt_inj]
  change ¬ p.1.toInt < i.toInt ∧ ¬ i.toInt < p.1.toInt ↔ _
  omega

end Key

def Joined {α : Type} (a : α) (before after : List α) : Prop :=
  ∃ front back, before = front ++ back ∧ after = front ++ a :: back

/-- Of the listings of a table one has got a new row, and the others are as they were. -/
structure Enlisted {ι α : Type} (before after : ι → List α) (i : ι) (a : α) : Prop where
  joined : Joined a (before i) (after i)
  others : ∀ j, j ≠ i → after j = before j

namespace Joined

variable {ι α : Type} {a : α} {rows rows' : List α} {p : α → Bool}

theorem filter_pos (h : Joined a rows rows') (asked : p a = true) : Joined a (rows.filter p) (rows'.filter p) := by
  obtain ⟨front, back, rfl, rfl⟩ := h
  refine ⟨front.filter p, back.filter p, List.filter_append .., ?_⟩
  rw [List.filter_append, List.filter_cons_of_pos asked]

theorem filter_neg (h : Joined a rows rows') (unasked : ¬ p a = true) : rows'.filter p = rows.filter p := by
  obtain ⟨front, back, rfl, rfl⟩ := h
  rw [List.filter_append, List.filter_append, List.filter_cons_of_neg unasked]

theorem enlisted {asked : ι → α → Bool} {before after : ι → List α} {i : ι} (h : Joined a rows rows')
    (scan : ∀ j, before j = rows.filter (asked j)) (scan' : ∀ j, after j = rows'.filter (asked j))
    (here : asked i a = true) (elsewhere : ∀ j, asked j a = true → j = i) : Enlisted before after i a where
  joined := by
    rw [scan, scan']
    exact h.filter_pos here
  others j other := by
    rw [scan, scan']
    exact h.filter_neg fun both => other (elsewhere j both)

theorem enlisted_if {asked : ι → α → Bool} {before after : ι → List α} {i : ι} (h : Joined a rows rows')
    (scan : ∀ j, before j = rows.filter (asked j)) (scan' : ∀ j, after j = rows'.filter (asked j))
    (elsewhere : ∀ j, asked j a = true → j = i) :
    if asked i a then Enlisted before after i a else after = before := by
  split
  · next here => exact h.enlisted scan scan' here elsewhere
  · next unasked =>
    funext j
    rw [scan, scan', h.filter_neg]
    intro here
    obtain rfl := elsewhere j here
    exact unasked here

end Joined

namespace Table

variable {κ α : Type} [Key κ]

/-- A listing is what is found on the way through the rows of a table, and it is in rising order. -/
structure Scans (t : Table κ α) (asked : α → Bool) (order : α → Ident) (listing : List α) : Prop where
  scan : listing = t.rows.filter asked
  increasing : listing.Pairwise fun a b => order a < order b

theorem joined_insert {t : Table κ α} {k : κ} (a : α) (free : t.contains k = false) :
    Joined a t.rows (t.insert k a).rows := exists_rows_insert_eq a free

theorem KeyedBy.scans {key : α → Ident} {t : Table Ident α} (h : t.KeyedBy key) (asked : α → Bool) :
    t.Scans asked key (t.rows.filter asked) :=
  ⟨rfl, h.pairwise_rows.filter asked⟩

theorem KeyedBy.scans_pairs {first second : α → Ident} {t : Table (Ident × Ident) α}
    (h : t.KeyedBy fun a => (first a, second a)) (i : Ident) :
    t.Scans (fun a => first a = i) second (t.between (i, .least) (i, .greatest)) := by
  have scan : t.between (i, .least) (i, .greatest) = t.rows.filter fun a => first a = i := by
    rw [h.between_eq]
    simp only [Key.within_pairs_iff]
  refine ⟨scan, ?_⟩
  rw [scan, List.pairwise_filter]
  refine h.pairwise_rows.imp fun {a b} before here here' => ?_
  rw [decide_eq_true_eq] at here here'
  rcases Key.rank_pair_lt_iff.mp before with lower | ⟨-, lower⟩
  · rw [here, here'] at lower
    exact absurd lower (Int.lt_irrefl _)
  · exact lower

end Table

namespace Tables

variable {t u : Tables} {v : Visibility}

/-- The restraints of a scope among rows in whatever order, sorted by user. -/
def restraintsAmong (scope : Scope) (rows : List Restraint) : List Restraint :=
  (rows.filter fun r => r.scope = scope).mergeSort fun r s => decide (r.user ≤ s.user)

/-- In one scope there is one restraint of a user at most, so the order of the rows makes no difference. -/
theorem Keyed.restraintsAmong_eq (h : t.Keyed) (scope : Scope) {rows : List Restraint}
    (same : rows.Perm t.restraints.rows) : restraintsAmong scope rows = t.restraintsIn scope := by
  have shuffled : (restraintsAmong scope rows).Perm (t.restraintsIn scope) :=
    (List.mergeSort_perm ..).trans (same.filter _)
  have sorted : (restraintsAmong scope rows).Pairwise fun r s => r.user ≤ s.user := by
    have : Std.Total fun r s : Restraint => r.user ≤ s.user := ⟨fun _ _ => Int.le_total ..⟩
    have : IsTrans Restraint fun r s => r.user ≤ s.user := ⟨fun _ _ _ => Int.le_trans⟩
    exact List.pairwise_mergeSort' _ _
  have sorted' : (t.restraintsIn scope).Pairwise fun r s => r.user ≤ s.user :=
    (h.restraintsIn_increasing scope).imp Int.le_of_lt
  refine shuffled.eq_of_pairwise ?_ sorted sorted'
  intro r s mem mem' before after
  have user : r.user = s.user := Ident.toInt_inj.mp (Int.le_antisymm before after)
  have found := h.mem_restraintsIn_iff.mp (shuffled.mem_iff.mp mem)
  have found' := h.mem_restraintsIn_iff.mp mem'
  rw [user, found'] at found
  exact (Option.some.inj found).symm

theorem filter_of_admitted {α : Type} (admitted : Bool) (p : α → Bool) (l : List α) :
    (if admitted then l.filter p else []) = l.filter fun a => admitted && p a := by
  cases admitted <;> simp

def asksChannel (t : Tables) (v : Visibility) (space : Ident) (c : Channel) : Bool :=
  (t.space? v space).isSome && (decide (c.space = space) && v.admits c.deleted)

def asksMedia (t : Tables) (v : Visibility) (message : Ident) (x : Media) : Bool :=
  (t.message? v message).isSome && decide (x.message = message)

theorem channelsIn_eq (t : Tables) (v : Visibility) (space : Ident) :
    t.channelsIn v space = t.channels.rows.filter (t.asksChannel v space) :=
  filter_of_admitted ..

theorem mediaOf_eq (t : Tables) (v : Visibility) (message : Ident) :
    t.mediaOf v message = t.media.rows.filter (t.asksMedia v message) :=
  filter_of_admitted ..

theorem asksChannel_iff {space : Ident} {c : Channel} : t.asksChannel v space c = true ↔
    (t.space? v space).isSome = true ∧ c.space = space ∧ v.admits c.deleted = true := by
  rw [asksChannel, Bool.and_eq_true, Bool.and_eq_true, decide_eq_true_eq]

theorem asksMedia_iff {message : Ident} {x : Media} :
    t.asksMedia v message x = true ↔ (t.message? v message).isSome = true ∧ x.message = message := by
  rw [asksMedia, Bool.and_eq_true, decide_eq_true_eq]

section Insertions

theorem Keyed.enlisted_spaceMember (h : t.Keyed) {m : SpaceMember} (ok : t.insertSpaceMember m = .ok u) :
    Enlisted t.spaceMembersOf u.spaceMembersOf m.space m := by
  have after := h.change (.insertSpaceMember ok)
  obtain ⟨-, -, free, rfl⟩ := insertSpaceMember_eq_ok_iff.mp ok
  exact (Table.joined_insert m free).enlisted (fun s => (h.spaceMembers.scans_pairs s).scan)
    (fun s => (after.spaceMembers.scans_pairs s).scan) (decide_eq_true rfl) fun _ here => (of_decide_eq_true here).symm

theorem Keyed.enlisted_channelMember (h : t.Keyed) {m : ChannelMember} (ok : t.insertChannelMember m = .ok u) :
    Enlisted t.channelMembersOf u.channelMembersOf m.channel m := by
  have after := h.change (.insertChannelMember ok)
  obtain ⟨-, -, free, rfl⟩ := insertChannelMember_eq_ok_iff.mp ok
  exact (Table.joined_insert m free).enlisted (fun c => (h.channelMembers.scans_pairs c).scan)
    (fun c => (after.channelMembers.scans_pairs c).scan) (decide_eq_true rfl)
    fun _ here => (of_decide_eq_true here).symm

theorem enlisted_restraint {r : Restraint} (free : t.restraints.contains (r.scope, r.user) = false)
    (ok : t.putRestraint r = .ok u) : Enlisted t.restraintsIn u.restraintsIn r.scope r := by
  obtain ⟨-, rfl⟩ := putRestraint_eq_ok_iff.mp ok
  exact (Table.joined_insert r free).enlisted (fun _ => rfl) (fun _ => rfl) (decide_eq_true rfl)
    fun _ here => (of_decide_eq_true here).symm

theorem enlisted_channel {c : Channel} (ok : t.insertChannel c = .ok u) (v : Visibility) :
    if t.asksChannel v c.space c then Enlisted (t.channelsIn v) (u.channelsIn v) c.space c
    else u.channelsIn v = t.channelsIn v := by
  obtain ⟨-, free, rfl⟩ := insertChannel_eq_ok_iff.mp ok
  exact (Table.joined_insert c free).enlisted_if (t.channelsIn_eq v) (channelsIn_eq _ v)
    fun _ here => (asksChannel_iff.mp here).2.1.symm

theorem enlisted_channel_all {c : Channel} (ok : t.insertChannel c = .ok u) :
    Enlisted (t.channelsIn .all) (u.channelsIn .all) c.space c := by
  obtain ⟨parent, -, -⟩ := insertChannel_eq_ok_iff.mp ok
  have asked : t.asksChannel .all c.space c = true := by
    refine asksChannel_iff.mpr ⟨?_, rfl, rfl⟩
    rw [space?_all]
    exact parent
  have added := enlisted_channel ok .all
  rwa [if_pos asked] at added

theorem enlisted_media {x : Media} (ok : t.insertMedia x = .ok u) (v : Visibility) :
    if t.asksMedia v x.message x then Enlisted (t.mediaOf v) (u.mediaOf v) x.message x
    else u.mediaOf v = t.mediaOf v := by
  obtain ⟨-, free, rfl⟩ := insertMedia_eq_ok_iff.mp ok
  exact (Table.joined_insert x free).enlisted_if (t.mediaOf_eq v) (mediaOf_eq _ v)
    fun _ here => (asksMedia_iff.mp here).2.symm

theorem Linked.enlisted_media_all (h : t.Linked) {x : Media} (ok : t.insertMedia x = .ok u) :
    Enlisted (t.mediaOf .all) (u.mediaOf .all) x.message x := by
  obtain ⟨parent, -, -⟩ := insertMedia_eq_ok_iff.mp ok
  have asked : t.asksMedia .all x.message x = true := by
    refine asksMedia_iff.mpr ⟨?_, rfl⟩
    rw [h.message?_all]
    exact parent
  have added := enlisted_media ok .all
  rwa [if_pos asked] at added

end Insertions

/-- For all tables in which the rows lie under their own keys, whatever identifiers they have: the members of a space or
of a channel and the restraints of a scope are just the rows of their table that name it, in strict order of the users,
and the restraints are so in whatever order the rows are come across; the channels of a space and the media of a message
are the rows that name it, if the visibility admits them and what is above them, in order of their identifiers. A row
under a new key, if what it names is there, is inserted: it is put into the listing of what it names, among the rows that
were there, and into no other listing of its table. For channels and media this is so where deleted rows are read too, as
long as what is above a message is there; under a visibility that does not admit the row, or what is above it, no listing
is changed. -/
theorem listings_scan_tables (keyed : t.Keyed) :
    (∀ space, t.spaceMembers.Scans (fun m => m.space = space) SpaceMember.user (t.spaceMembersOf space)) ∧
    (∀ channel, t.channelMembers.Scans (fun m => m.channel = channel) ChannelMember.user (t.channelMembersOf channel)) ∧
    (∀ scope, t.restraints.Scans (fun r => r.scope = scope) Restraint.user (t.restraintsIn scope) ∧
      ∀ rows : List Restraint, rows.Perm t.restraints.rows → restraintsAmong scope rows = t.restraintsIn scope) ∧
    (∀ v space, t.channels.Scans (t.asksChannel v space) Channel.id (t.channelsIn v space)) ∧
    (∀ v message, t.media.Scans (t.asksMedia v message) Media.id (t.mediaOf v message)) ∧
    (∀ m, t.spaces.contains m.space = true → t.users.contains m.user = true →
      t.spaceMembers.contains (m.space, m.user) = false →
        ∃ u, t.insertSpaceMember m = .ok u ∧ Enlisted t.spaceMembersOf u.spaceMembersOf m.space m) ∧
    (∀ m, t.channels.contains m.channel = true → t.users.contains m.user = true →
      t.channelMembers.contains (m.channel, m.user) = false →
        ∃ u, t.insertChannelMember m = .ok u ∧ Enlisted t.channelMembersOf u.channelMembersOf m.channel m) ∧
    (∀ r, t.users.contains r.user = true → t.restraints.contains (r.scope, r.user) = false →
      ∃ u, t.putRestraint r = .ok u ∧ Enlisted t.restraintsIn u.restraintsIn r.scope r) ∧
    (∀ c, t.spaces.contains c.space = true → t.channels.contains c.id = false →
      ∃ u, t.insertChannel c = .ok u ∧ Enlisted (t.channelsIn .all) (u.channelsIn .all) c.space c ∧
        ∀ v, if t.asksChannel v c.space c then Enlisted (t.channelsIn v) (u.channelsIn v) c.space c
          else u.channelsIn v = t.channelsIn v) ∧
    ∀ x, t.messages.contains x.message = true → t.media.contains x.id = false →
      ∃ u, t.insertMedia x = .ok u ∧ (t.Linked → Enlisted (t.mediaOf .all) (u.mediaOf .all) x.message x) ∧
        ∀ v, if t.asksMedia v x.message x then Enlisted (t.mediaOf v) (u.mediaOf v) x.message x
          else u.mediaOf v = t.mediaOf v := by
  refine ⟨keyed.spaceMembers.scans_pairs, keyed.channelMembers.scans_pairs, fun scope => ⟨?_, ?_⟩, fun v space => ?_,
    fun v message => ?_, ?_, ?_, ?_, ?_, ?_⟩
  · exact ⟨rfl, keyed.restraintsIn_increasing scope⟩
  · exact fun rows same => keyed.restraintsAmong_eq scope same
  · rw [channelsIn_eq]
    exact keyed.channels.scans _
  · rw [mediaOf_eq]
    exact keyed.media.scans _
  · intro m space user free
    have ok := insertSpaceMember_eq_ok_iff.mpr ⟨space, user, free, rfl⟩
    exact ⟨_, ok, keyed.enlisted_spaceMember ok⟩
  · intro m channel user free
    have ok := insertChannelMember_eq_ok_iff.mpr ⟨channel, user, free, rfl⟩
    exact ⟨_, ok, keyed.enlisted_channelMember ok⟩
  · intro r user free
    have ok := putRestraint_eq_ok_iff.mpr ⟨user, rfl⟩
    exact ⟨_, ok, enlisted_restraint free ok⟩
  · intro c space free
    have ok := insertChannel_eq_ok_iff.mpr ⟨space, free, rfl⟩
    exact ⟨_, ok, enlisted_channel_all ok, enlisted_channel ok⟩
  · intro x message free
    have ok := insertMedia_eq_ok_iff.mpr ⟨message, free, rfl⟩
    exact ⟨_, ok, fun linked => linked.enlisted_media_all ok, enlisted_media ok⟩

/-- Users with the least and the greatest identifier are in space 2 and restrained there, and there are rows of space 3
too. Both users are listed for space 2, a third is put between them, and the restraints are listed in the same order from
the rows backwards. -/
theorem listings_scan_tables_extremes :
    let member (space user : Ident) : SpaceMember := ⟨space, user, .member, .ofMillis 0⟩
    let mute (space user : Ident) : Restraint := ⟨.space space, user, .mute, none, .least, .ofMillis 0, none⟩
    ∃ t u : Tables, t.Built ∧
      t.spaceMembersOf ⟨2⟩ = [member ⟨2⟩ .least, member ⟨2⟩ .greatest] ∧
      t.spaceMembers.Scans (fun m => m.space = ⟨2⟩) SpaceMember.user (t.spaceMembersOf ⟨2⟩) ∧
      t.insertSpaceMember (member ⟨2⟩ ⟨-1⟩) = .ok u ∧
      Enlisted t.spaceMembersOf u.spaceMembersOf ⟨2⟩ (member ⟨2⟩ ⟨-1⟩) ∧
      u.spaceMembersOf ⟨2⟩ = [member ⟨2⟩ .least, member ⟨2⟩ ⟨-1⟩, member ⟨2⟩ .greatest] ∧
      restraintsAmong (.space ⟨2⟩) [mute ⟨3⟩ .least, mute ⟨2⟩ .greatest, mute ⟨2⟩ .least] =
        [mute ⟨2⟩ .least, mute ⟨2⟩ .greatest] := by
  intro member mute
  have built := Built.empty
    |>.change (.insertUser (x := ⟨.least, "ann", "", false, .ofMillis 0⟩) rfl)
    |>.change (.insertUser (x := ⟨⟨-1⟩, "bob", "", false, .ofMillis 0⟩) rfl)
    |>.change (.insertUser (x := ⟨.greatest, "cat", "", false, .ofMillis 0⟩) rfl)
    |>.change (.insertSpace (s := ⟨⟨2⟩, "home", "", .least, false, .ofMillis 0, .ofMillis 0⟩) rfl)
    |>.change (.insertSpace (s := ⟨⟨3⟩, "club", "", .least, false, .ofMillis 0, .ofMillis 0⟩) rfl)
    |>.change (.insertSpaceMember (m := member ⟨3⟩ .least) rfl)
    |>.change (.insertSpaceMember <| insertSpaceMember_eq_ok_iff (m := member ⟨2⟩ .greatest)
      |>.mpr ⟨by decide +kernel, by decide +kernel, by decide +kernel, rfl⟩)
    |>.change (.insertSpaceMember <| insertSpaceMember_eq_ok_iff (m := member ⟨2⟩ .least)
      |>.mpr ⟨by decide +kernel, by decide +kernel, by decide +kernel, rfl⟩)
    |>.change (.putRestraint (r := mute ⟨2⟩ .greatest) rfl)
    |>.change (.putRestraint (r := mute ⟨3⟩ .least) rfl)
    |>.change (.putRestraint (r := mute ⟨2⟩ .least) rfl)
  obtain ⟨t, u, built, listed, space, user, free, changed, listed', restraints, restrained⟩ :
      ∃ t u : Tables, t.Built ∧
        t.spaceMembersOf ⟨2⟩ = [member ⟨2⟩ .least, member ⟨2⟩ .greatest] ∧
        t.spaces.contains ⟨2⟩ = true ∧ t.users.contains ⟨-1⟩ = true ∧ t.spaceMembers.contains (⟨2⟩, ⟨-1⟩) = false ∧
        u = { t with spaceMembers := t.spaceMembers.insert (⟨2⟩, ⟨-1⟩) (member ⟨2⟩ ⟨-1⟩) } ∧
        u.spaceMembersOf ⟨2⟩ = [member ⟨2⟩ .least, member ⟨2⟩ ⟨-1⟩, member ⟨2⟩ .greatest] ∧
        t.restraints.rows = [mute ⟨2⟩ .least, mute ⟨2⟩ .greatest, mute ⟨3⟩ .least] ∧
        t.restraintsIn (.space ⟨2⟩) = [mute ⟨2⟩ .least, mute ⟨2⟩ .greatest] :=
    ⟨_, _, built, by decide +kernel, by decide +kernel, by decide +kernel, by decide +kernel, rfl, by decide +kernel,
      by decide +kernel, by decide +kernel⟩
  have ok : t.insertSpaceMember (member ⟨2⟩ ⟨-1⟩) = .ok u :=
    insertSpaceMember_eq_ok_iff.mpr ⟨space, user, free, changed⟩
  obtain ⟨members, -, sorted, -, -, added, -⟩ := listings_scan_tables built.keyed
  obtain ⟨u', ok', enlisted⟩ := added (member ⟨2⟩ ⟨-1⟩) space user free
  obtain rfl : u' = u := Except.ok.inj (ok'.symm.trans ok)
  have backwards : [mute ⟨3⟩ .least, mute ⟨2⟩ .greatest, mute ⟨2⟩ .least].Perm t.restraints.rows := by
    rw [restraints]
    exact List.reverse_perm [mute ⟨2⟩ .least, mute ⟨2⟩ .greatest, mute ⟨3⟩ .least]
  refine ⟨t, u', built, listed, members ⟨2⟩, ok, enlisted, listed', ?_⟩
  rw [(sorted (.space ⟨2⟩)).2 _ backwards, restrained]

end Tables

end ChatSpaces
