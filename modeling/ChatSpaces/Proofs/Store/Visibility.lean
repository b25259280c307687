import ChatSpaces.Proofs.Store.Integrity
import ChatSpaces.Proofs.Tables.Visibility

/-!
# One filter behind all reads

Seven reads take a visibility. In every state that units of work can reach, each of them answers for live rows
what it answers for all rows, less what is hidden. What counts as hidden differs from read to read only by the
rows above that it covers, and only a channel joined to its space leaves the space out of account.
-/

namespace ChatSpaces

open Tables (Operation)

namespace Tables

variable {α : Type}

/-- The read finds this row when deleted rows count, and otherwise finds it unless it is hidden. -/
def SiftsOne (t : Tables) (form : α → Entity) (read : Visibility → Operation) (row : Option α)
    (hidden : α → Bool) : Prop :=
  (read .all).apply t = .ok (.optional form row, t) ∧
    (read .live).apply t = .ok (.optional form (row.filter fun a => !hidden a), t)

/-- The read lists these rows when deleted rows count, and otherwise those of them that are not hidden. -/
def SiftsMany (t : Tables) (form : α → Entity) (read : Visibility → Operation) (rows : List α)
    (hidden : α → Bool) : Prop :=
  (read .all).apply t = .ok (.many form rows, t) ∧
    (read .live).apply t = .ok (.many form (rows.filter fun a => !hidden a), t)

variable {t : Tables}

theorem siftsOne_channelInSpace (id : Ident) :
    SiftsOne t .channelInSpace (.findChannelInSpace · id)
      ((t.channels.get? id).bind fun c => (t.spaces.get? c.space).map (⟨c, ·⟩)) (·.channel.deleted) := by
  constructor
  · rw [Operation.apply, channelInSpace?, channel?_all]
    rfl
  · rw [Operation.apply, channelInSpace?_live]
    rfl

namespace Linked

theorem siftsMany_channelsIn (h : t.Linked) (space : Ident) :
    SiftsMany t .channel (.findChannelsIn · space) (t.channels.rows.filter (·.space = space))
      t.channelHidden := by
  constructor
  · rw [Operation.apply, h.channelsIn_all]
    rfl
  · rw [Operation.apply, h.channelsIn_live]
    rfl

theorem siftsOne_message (h : t.Linked) (id : Ident) :
    SiftsOne t .message (.findMessage · id) (t.messages.get? id) t.messageHidden := by
  constructor
  · rw [Operation.apply, h.message?_all]
    rfl
  · rw [Operation.apply, h.message?_live]
    rfl

theorem siftsMany_mediaOf (h : t.Linked) (message : Ident) :
    SiftsMany t .media (.findMedia · message) (t.media.rows.filter (·.message = message)) t.mediaHidden := by
  constructor
  · rw [Operation.apply, h.mediaOf_all]
    rfl
  · rw [Operation.apply, h.mediaOf_live]
    rfl

theorem findMessagesIn_unlimited (h : t.Linked) (channel : Ident) (before : Option Ident) {limit : Int}
    (enough : t.messages.size ≤ limit) :
    (Operation.findMessagesIn .all channel before limit).apply t =
      .ok (.many .message (t.messagesBelow channel before), t) := by
  have fits : (t.messagesBelow channel before).length ≤ limit.toNat := by
    have shorter : (t.messagesBelow channel before).length ≤ _ := List.length_filter_le _ _
    have below := t.messages.length_below_le (before.getD .greatest)
    omega
  rw [Operation.apply, h.messagesIn_all, List.take_of_length_le fits]
  rfl

end Linked

end Tables

namespace Store.Shared

variable {ι : Type} [DecidableEq ι]

/-- In the committed tables and in every working copy, after any interleaving of units of work, every read of
live rows answers what the read of all rows answers, in the same order and without the rows that are hidden by
their own mark or, where the read covers what is above them, by that of their message, channel or space; a page of
messages is the beginning of what is left below its cursor. A message that is not hidden lies in a channel that
is there and not deleted, in a space that is there and not deleted, and so does the message of media that is
not hidden. -/
theorem live_reads_sift {es : List (Event ι)} {s : Shared ι} (run : Run es s) {t : Tables}
    (state : t = s.committed ∨ ∃ i, s.copies i = some t) :
    ((∀ id, t.SiftsOne .space (.findSpace · id) (t.spaces.get? id) Space.deleted) ∧
      (∀ id, t.SiftsOne .channel (.findChannel · id) (t.channels.get? id) Channel.deleted) ∧
      (∀ space, t.SiftsMany .channel (.findChannelsIn · space)
        (t.channels.rows.filter (·.space = space)) t.channelHidden) ∧
      (∀ id, t.SiftsOne .channelInSpace (.findChannelInSpace · id)
        ((t.channels.get? id).bind fun c => (t.spaces.get? c.space).map (⟨c, ·⟩)) (·.channel.deleted)) ∧
      (∀ id, t.SiftsOne .message (.findMessage · id) (t.messages.get? id) t.messageHidden) ∧
      (∀ message, t.SiftsMany .media (.findMedia · message)
        (t.media.rows.filter (·.message = message)) t.mediaHidden) ∧
      ∀ channel before,
        (∀ enough : Int, t.messages.size ≤ enough →
          (Operation.findMessagesIn .all channel before enough).apply t =
            .ok (.many .message (t.messagesBelow channel before), t)) ∧
        ∀ limit : Int, (Operation.findMessagesIn .live channel before limit).apply t =
          .ok (.many .message
            (((t.messagesBelow channel before).filter fun m => !t.messageHidden m).take limit.toNat), t)) ∧
    (∀ id m, t.messages.get? id = some m → (t.messageHidden m = false ↔ t.Exposed m)) ∧
    ∀ id x, t.media.get? id = some x →
      (t.mediaHidden x = false ↔ ∃ m, t.messages.get? x.message = some m ∧ t.Exposed m) := by
  have linked : t.Linked := by
    rcases state with rfl | ⟨i, copy⟩
    · exact run.allBuilt.committed.linked
    · exact (run.allBuilt.copies i t copy).linked
  refine ⟨⟨?_, ?_, linked.siftsMany_channelsIn, Tables.siftsOne_channelInSpace, linked.siftsOne_message,
    linked.siftsMany_mediaOf, ?_⟩, ?_, ?_⟩
  · intro id
    constructor
    · rw [Operation.apply, Tables.space?_all]
      rfl
    · rfl
  · intro id
    constructor
    · rw [Operation.apply, Tables.channel?_all]
      rfl
    · rfl
  · intro channel before
    constructor
    · intro enough large
      exact linked.findMessagesIn_unlimited channel before large
    · intro limit
      rw [Operation.apply, linked.messagesIn_live]
      rfl
  · intro id m found
    exact linked.messageHidden_eq_false_iff found
  · intro id x found
    exact linked.mediaHidden_eq_false_iff found

/-- Client 0 stores messages 4, 5 and 6 in a channel and marks 5 deleted: a page of two live messages holds 6
and 4, and the read of all messages holds 5 as well. The space is marked deleted then, and its channel is found
with it by the read that leaves the space out of account. -/
theorem live_reads_sift_page :
    let post (id : Ident) : Message := ⟨id, ⟨3⟩, ⟨1⟩, "hello", false, .ofMillis 0, .ofMillis 0⟩
    let gone : Message := { post ⟨5⟩ with deleted := true, updatedAt := .ofMillis 1 }
    ∃ (es : List (Event Nat)) (s : Shared Nat) (t u : Tables), Run es s ∧
      s.committed = t ∧ s.copies 0 = some u ∧
      (Operation.findMessagesIn .all ⟨3⟩ none 256).apply t =
        .ok (.many .message [post ⟨6⟩, gone, post ⟨4⟩], t) ∧
      (Operation.findMessagesIn .live ⟨3⟩ none 2).apply t = .ok (.many .message [post ⟨6⟩, post ⟨4⟩], t) ∧
      ∃ joined, (Operation.findChannelInSpace .live ⟨3⟩).apply u = .ok (.one .channelInSpace joined, u) ∧
        joined.space.deleted = true := by
  intro post gone
  have run := (Run.nil : Run ([] : List (Event Nat)) _)
    |>.snoc (i := 0) (a := .begin) rfl
    |>.snoc (i := 0) (a := .perform (.insertUser ⟨⟨1⟩, "ann", "", false, .ofMillis 0⟩)) (by decide)
    |>.snoc (i := 0) (a := .perform (.insertSpace ⟨⟨2⟩, "home", "", ⟨1⟩, false, .ofMillis 0, .ofMillis 0⟩))
      (by decide)
    |>.snoc (i := 0) (a := .perform (.insertChannel ⟨⟨3⟩, ⟨2⟩, "news", false, .ofMillis 0, .ofMillis 0⟩))
      (by decide)
    |>.snoc (i := 0) (a := .perform (.insertMessage (post ⟨4⟩))) (by decide)
    |>.snoc (i := 0) (a := .perform (.insertMessage (post ⟨5⟩))) (by decide)
    |>.snoc (i := 0) (a := .perform (.insertMessage (post ⟨6⟩))) (by decide)
    |>.snoc (i := 0) (a := .perform (.deleteMessage ⟨5⟩ (.ofMillis 1))) (by decide)
    |>.snoc (i := 0) (a := .commit) (by decide)
    |>.snoc (i := 0) (a := .begin) (by decide)
    |>.snoc (i := 0) (a := .perform (.deleteSpace ⟨2⟩ (.ofMillis 1))) (by decide)
  obtain ⟨es, s, t, u, run, committed, copy, size, all, hides, channel, space⟩ :
      ∃ (es : List (Event Nat)) (s : Shared Nat) (t u : Tables), Run es s ∧
        s.committed = t ∧ s.copies 0 = some u ∧ t.messages.size = 3 ∧
        t.messagesBelow ⟨3⟩ none = [post ⟨6⟩, gone, post ⟨4⟩] ∧
        [post ⟨6⟩, gone, post ⟨4⟩].map t.messageHidden = [false, true, false] ∧
        u.channels.get? ⟨3⟩ = some ⟨⟨3⟩, ⟨2⟩, "news", false, .ofMillis 0, .ofMillis 0⟩ ∧
        u.spaces.get? ⟨2⟩ = some ⟨⟨2⟩, "home", "", ⟨1⟩, true, .ofMillis 0, .ofMillis 1⟩ :=
    ⟨_, _, _, _, run, rfl, rfl, by decide, by decide, by decide, by decide, by decide⟩
  obtain ⟨⟨-, -, -, -, -, -, paged⟩, -, -⟩ := live_reads_sift run (.inl committed.symm)
  obtain ⟨unlimited, page⟩ := paged ⟨3⟩ none
  obtain ⟨⟨-, -, -, joined, -⟩, -⟩ := live_reads_sift run (.inr ⟨0, copy⟩)
  refine ⟨es, s, t, u, run, committed, copy, ?_, ?_, ?_⟩
  · rw [unlimited 256 (by omega), all]
  · simp only [List.map_cons, List.cons.injEq] at hides
    rw [page, all]
    simp only [List.filter_cons, hides]
    rfl
  · have found := (joined ⟨3⟩).2
    rw [channel, Option.bind_some, space] at found
    exact ⟨_, found, rfl⟩

end Store.Shared

end ChatSpaces
