import ChatSpaces.Proofs.Tables.Integrity

/-!
# What the reads of live rows leave out

A row is hidden if it is marked deleted or if something above it is. The reads that take a visibility are
written apart from each other, and each looks at rows of its own; yet a read of live rows finds what the read
of all rows finds, in the same order, without the rows that are hidden.
-/

namespace ChatSpaces.Tables

section Hidden

variable (t : Tables)

def channelHidden (c : Channel) : Bool := c.deleted || (t.spaces.get? c.space).any (·.deleted)

def messageHidden (m : Message) : Bool := m.deleted || (t.channels.get? m.channel).any t.channelHidden

/-- Media is never marked itself: it is hidden with its message. -/
def mediaHidden (x : Media) : Bool := (t.messages.get? x.message).any t.messageHidden

def OpenChannel (channel : Ident) : Prop :=
  ∃ c s, t.channels.get? channel = some c ∧ c.deleted = false ∧
    t.spaces.get? c.space = some s ∧ s.deleted = false

def Exposed (m : Message) : Prop := m.deleted = false ∧ t.OpenChannel m.channel

end Hidden

variable {t : Tables}

theorem admitsChannel_live_iff {channel : Ident} : t.admitsChannel .live channel = true ↔ t.OpenChannel channel := by
  simp only [admitsChannel, channel?, space?, Option.isSome_iff_exists, Option.bind_eq_some_iff,
    Option.filter_eq_some_iff, Visibility.admits_live, Bool.not_eq_true']
  constructor
  · rintro ⟨s, c, ⟨found, stays⟩, space, live⟩
    exact ⟨c, s, found, stays, space, live⟩
  · rintro ⟨c, s, found, stays, space, live⟩
    exact ⟨s, c, ⟨found, stays⟩, space, live⟩

theorem admitsMessage_live_iff {m : Message} : t.admitsMessage .live m = true ↔ t.Exposed m := by
  rw [admitsMessage, Bool.and_eq_true, Visibility.admits_live, Bool.not_eq_true', admitsChannel_live_iff]
  exact Iff.rfl

/-- Only the mark of the channel itself counts: the space is given as it is stored. -/
theorem channelInSpace?_live (id : Ident) :
    t.channelInSpace? .live id =
      ((t.channels.get? id).bind fun c => (t.spaces.get? c.space).map (⟨c, ·⟩)).filter
        fun j => !j.channel.deleted := by
  apply Option.ext
  intro j
  simp only [channelInSpace?, channel?, Option.filter_eq_some_iff, Option.bind_eq_some_iff,
    Option.map_eq_some_iff, Visibility.admits_live]
  constructor
  · rintro ⟨c, ⟨found, stays⟩, s, space, rfl⟩
    exact ⟨⟨c, found, s, space, rfl⟩, stays⟩
  · rintro ⟨⟨c, found, s, space, rfl⟩, stays⟩
    exact ⟨c, ⟨found, stays⟩, s, space, rfl⟩

theorem channelInSpace?_live_eq_some_iff {id : Ident} {j : ChannelInSpace} :
    t.channelInSpace? .live id = some j ↔ t.channels.get? id = some j.channel ∧
      t.spaces.get? j.channel.space = some j.space ∧ j.channel.deleted = false := by
  simp only [channelInSpace?_live, Option.filter_eq_some_iff, Option.bind_eq_some_iff,
    Option.map_eq_some_iff, Bool.not_eq_true']
  constructor
  · rintro ⟨⟨c, found, s, space, rfl⟩, stays⟩
    exact ⟨found, space, stays⟩
  · rintro ⟨found, space, stays⟩
    exact ⟨⟨_, found, _, space, rfl⟩, stays⟩

namespace Linked

theorem channelHidden_eq_false_iff (h : t.Linked) {channel : Ident} {c : Channel}
    (found : t.channels.get? channel = some c) : t.channelHidden c = false ↔ t.OpenChannel channel := by
  obtain ⟨s, space⟩ := Table.contains_eq_true_iff.mp (h.channelSpace _ _ found)
  rw [channelHidden, space, Option.any_some, Bool.or_eq_false_iff]
  constructor
  · rintro ⟨stays, live⟩
    exact ⟨c, s, found, stays, space, live⟩
  · rintro ⟨c', s', found', stays, space', live⟩
    cases found.symm.trans found'
    cases space.symm.trans space'
    exact ⟨stays, live⟩

theorem messageHidden_eq_false_iff (h : t.Linked) {id : Ident} {m : Message}
    (found : t.messages.get? id = some m) : t.messageHidden m = false ↔ t.Exposed m := by
  obtain ⟨c, channel⟩ := Table.contains_eq_true_iff.mp (h.messageChannel _ _ found)
  rw [messageHidden, channel, Option.any_some, Bool.or_eq_false_iff, h.channelHidden_eq_false_iff channel]
  exact Iff.rfl

theorem mediaHidden_eq_false_iff (h : t.Linked) {id : Ident} {x : Media} (found : t.media.get? id = some x) :
    t.mediaHidden x = false ↔ ∃ m, t.messages.get? x.message = some m ∧ t.Exposed m := by
  obtain ⟨m, message⟩ := Table.contains_eq_true_iff.mp (h.mediaMessage _ _ found)
  rw [mediaHidden, message, Option.any_some, h.messageHidden_eq_false_iff message]
  simp only [Option.some.injEq, exists_eq_left']

theorem admitsChannel_live (h : t.Linked) {channel : Ident} {c : Channel}
    (found : t.channels.get? channel = some c) : t.admitsChannel .live channel = !t.channelHidden c := by
  rw [Bool.eq_iff_iff, admitsChannel_live_iff, Bool.not_eq_true', h.channelHidden_eq_false_iff found]

theorem admitsChannel_all (h : t.Linked) {channel : Ident} {c : Channel}
    (found : t.channels.get? channel = some c) : t.admitsChannel .all channel = true := by
  obtain ⟨s, space⟩ := Table.contains_eq_true_iff.mp (h.channelSpace _ _ found)
  rw [admitsChannel, channel?_all, found, Option.bind_some, space?_all, space]
  rfl

theorem message?_live (h : t.Linked) (id : Ident) :
    t.message? .live id = (t.messages.get? id).filter fun m => !t.messageHidden m := by
  rw [message?]
  cases found : t.messages.get? id with
  | none => rfl
  | some m =>
    have agree : t.admitsMessage .live m = !t.messageHidden m := by
      rw [Bool.eq_iff_iff, admitsMessage_live_iff, Bool.not_eq_true', h.messageHidden_eq_false_iff found]
    rw [Option.filter_some, Option.filter_some, agree]

end Linked

def messagesBelow (t : Tables) (channel : Ident) (before : Option Ident) : List Message :=
  (t.messages.below (before.getD .greatest)).filter (·.channel = channel)

theorem messagesIn_eq_take (v : Visibility) (channel : Ident) (before : Option Ident) (limit : Int) :
    t.messagesIn v channel before limit =
      (if t.admitsChannel v channel then
        (t.messages.below (before.getD .greatest)).filter
          (fun m => decide (m.channel = channel) && v.admits m.deleted)
      else []).take limit.toNat := by
  rw [messagesIn]
  split
  · rfl
  · rw [List.take_nil]

/-- Rows that are read only where their parent is admitted, each if it is admitted itself, are the rows that
are shown, if a row is shown where both are admitted. -/
theorem filter_of_parent {α : Type} {rows : List α} {here own shown : α → Bool} {parent : Bool}
    (agree : ∀ a ∈ rows, here a = true → shown a = (parent && own a)) :
    (if parent then rows.filter (fun a => here a && own a) else []) = (rows.filter here).filter shown := by
  rw [List.filter_filter]
  cases parent with
  | false =>
    symm
    rw [if_neg Bool.false_ne_true, List.filter_eq_nil_iff]
    intro a mem both
    obtain ⟨isShown, isHere⟩ := Bool.and_eq_true_iff.mp both
    rw [agree a mem isHere] at isShown
    cases isShown
  | true =>
    rw [if_pos rfl]
    apply List.filter_congr
    intro a mem
    cases isHere : here a with
    | false => rw [Bool.false_and, Bool.and_false]
    | true => rw [agree a mem isHere, Bool.and_true]

namespace Linked

theorem channelsIn_all (h : t.Linked) (space : Ident) :
    t.channelsIn .all space = t.channels.rows.filter (·.space = space) := by
  have there : ∀ c ∈ t.channels.rows, decide (c.space = space) = true →
      true = ((t.space? .all space).isSome && Visibility.all.admits c.deleted) := by
    intro c mem here
    obtain ⟨k, stored⟩ := Table.mem_rows_iff.mp mem
    have parent : (t.space? .all space).isSome = true := by
      rw [space?_all, ← of_decide_eq_true here]
      exact h.channelSpace k c stored
    rw [parent, Visibility.admits_all, Bool.and_true]
  rw [channelsIn, filter_of_parent there]
  exact List.filter_eq_self.mpr fun _ _ => rfl

theorem channelsIn_live (h : t.Linked) (space : Ident) :
    t.channelsIn .live space =
      (t.channels.rows.filter (·.space = space)).filter fun c => !t.channelHidden c := by
  apply filter_of_parent
  intro c mem here
  obtain ⟨k, stored⟩ := Table.mem_rows_iff.mp mem
  obtain ⟨s, found⟩ := Table.contains_eq_true_iff.mp (h.channelSpace k c stored)
  have parent : (t.space? .live space).isSome = !s.deleted := by
    rw [← of_decide_eq_true here, space?, found, Option.filter_some, Visibility.admits_live]
    cases s.deleted <;> rfl
  rw [channelHidden, found, Option.any_some, parent, Visibility.admits_live, Bool.not_or, Bool.and_comm]

theorem mediaOf_live (h : t.Linked) (message : Ident) :
    t.mediaOf .live message =
      (t.media.rows.filter (·.message = message)).filter fun x => !t.mediaHidden x := by
  have shown : ∀ x ∈ t.media.rows, decide (x.message = message) = true →
      (!t.mediaHidden x) = ((t.message? .live message).isSome && true) := by
    intro x mem here
    obtain ⟨k, stored⟩ := Table.mem_rows_iff.mp mem
    obtain ⟨m, found⟩ := Table.contains_eq_true_iff.mp (h.mediaMessage k x stored)
    have same : x.message = message := of_decide_eq_true here
    rw [mediaHidden, found, Option.any_some, h.message?_live, ← same, found, Option.filter_some]
    cases t.messageHidden m <;> rfl
  rw [← filter_of_parent shown, mediaOf]
  simp only [Bool.and_true]

theorem admitsChannel_all_of_mem (h : t.Linked) {channel : Ident} {m : Message} (mem : m ∈ t.messages.rows)
    (here : m.channel = channel) :
    ∃ c, t.channels.get? channel = some c ∧ t.admitsChannel .all channel = true := by
  obtain ⟨k, stored⟩ := Table.mem_rows_iff.mp mem
  obtain ⟨c, found⟩ := Table.contains_eq_true_iff.mp (h.messageChannel k m stored)
  rw [here] at found
  exact ⟨c, found, h.admitsChannel_all found⟩

theorem messagesIn_all (h : t.Linked) (channel : Ident) (before : Option Ident) (limit : Int) :
    t.messagesIn .all channel before limit = (t.messagesBelow channel before).take limit.toNat := by
  have there : ∀ m ∈ t.messages.below (before.getD .greatest), decide (m.channel = channel) = true →
      true = (t.admitsChannel .all channel && Visibility.all.admits m.deleted) := by
    intro m mem here
    obtain ⟨c, -, parent⟩ := h.admitsChannel_all_of_mem (Table.mem_rows_of_mem_below mem) (of_decide_eq_true here)
    rw [parent, Visibility.admits_all, Bool.and_true]
  rw [messagesIn_eq_take, filter_of_parent there]
  exact congrArg (List.take _) (List.filter_eq_self.mpr fun _ _ => rfl)

theorem messagesBelow_live (h : t.Linked) (channel : Ident) (before : Option Ident) :
    (if t.admitsChannel .live channel then
      (t.messages.below (before.getD .greatest)).filter
        (fun m => decide (m.channel = channel) && Visibility.live.admits m.deleted)
    else []) = (t.messagesBelow channel before).filter fun m => !t.messageHidden m := by
  apply filter_of_parent
  intro m mem here
  obtain ⟨c, found, -⟩ := h.admitsChannel_all_of_mem (Table.mem_rows_of_mem_below mem) (of_decide_eq_true here)
  rw [messageHidden, of_decide_eq_true here, found, Option.any_some, h.admitsChannel_live found,
    Visibility.admits_live, Bool.not_or, Bool.and_comm]

theorem messagesIn_live (h : t.Linked) (channel : Ident) (before : Option Ident) (limit : Int) :
    t.messagesIn .live channel before limit =
      ((t.messagesBelow channel before).filter fun m => !t.messageHidden m).take limit.toNat := by
  rw [messagesIn_eq_take, h.messagesBelow_live]

end Linked

end ChatSpaces.Tables
