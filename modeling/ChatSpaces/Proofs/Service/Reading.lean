import ChatSpaces.Proofs.Service.Run
import ChatSpaces.Proofs.Tables.Paging

/-!
# Reading messages

A message can be read, its media can be listed and media can be attached to it in the same cases: it is there,
and neither it nor its channel nor its space is deleted. The pages of a channel hold the same messages, and
whoever follows the cursors from the first page on comes across each of them.
-/

namespace ChatSpaces.Tables

variable {t : Tables}

def exposedBelow (t : Tables) (channel : Ident) (before : Option Ident) : List Message :=
  (t.messagesBelow channel before).filter fun m => !t.messageHidden m

theorem Linked.messagesIn_live_eq_take (h : t.Linked) (channel : Ident) (before : Option Ident) (limit : Int) :
    t.messagesIn .live channel before limit = (t.exposedBelow channel before).take limit.toNat :=
  h.messagesIn_live channel before limit

theorem message?_live_eq_some_iff {id : Ident} {m : Message} :
    t.message? .live id = some m ↔ t.messages.get? id = some m ∧ t.Exposed m := by
  rw [message?, Option.filter_eq_some_iff, admitsMessage_live_iff]

theorem message?_live_eq_none_iff {id : Ident} :
    t.message? .live id = none ↔ ∀ m, t.messages.get? id = some m → ¬ t.Exposed m := by
  simp only [Option.eq_none_iff_forall_ne_some, ne_eq, message?_live_eq_some_iff, not_and]

theorem openChannel_iff {channel : Ident} :
    t.OpenChannel channel ↔ ∃ j, t.channelInSpace? .live channel = some j ∧ j.spaceIsLive = true := by
  simp only [channelInSpace?_live_eq_some_iff, ChannelInSpace.spaceIsLive, Bool.not_eq_true']
  constructor
  · rintro ⟨c, s, found, stays, space, live⟩
    exact ⟨⟨c, s⟩, ⟨found, space, stays⟩, live⟩
  · rintro ⟨j, ⟨found, space, stays⟩, live⟩
    exact ⟨j.channel, j.space, found, stays, space, live⟩

theorem admits_live_iff {channel : Ident} {m : Message} :
    t.Admits .live channel m ↔ t.messages.get? m.id = some m ∧ t.Exposed m ∧ m.channel = channel := by
  constructor
  · rintro ⟨stored, rfl, own, above⟩
    exact ⟨stored, ⟨by simpa using own, admitsChannel_live_iff.mp (admitsChannel_iff.mpr above)⟩, rfl⟩
  · rintro ⟨stored, ⟨stays, opened⟩, rfl⟩
    exact ⟨stored, rfl, by simpa using stays, admitsChannel_iff.mp (admitsChannel_live_iff.mpr opened)⟩

namespace Keyed

section Exposed

variable (h : t.Keyed) (linked : t.Linked) {channel : Ident} {before : Option Ident}
include h linked

theorem exposedBelow_eq (channel : Ident) (before : Option Ident) :
    t.exposedBelow channel before = t.admittedBelow .live channel before := by
  rw [exposedBelow, admittedBelow_eq h.messages, linked.messagesBelow_live]

theorem mem_exposedBelow_iff {m : Message} :
    m ∈ t.exposedBelow channel before ↔
      t.messages.get? m.id = some m ∧ t.Exposed m ∧ m.channel = channel ∧ m.id < before.getD .greatest := by
  rw [h.exposedBelow_eq linked, mem_admittedBelow_iff h.messages, admits_live_iff, and_assoc, and_assoc]

theorem exposedBelow_last {n : Nat} {last : Message}
    (found : ((t.exposedBelow channel before).take n).getLast? = some last) :
    t.exposedBelow channel (some last.id) = (t.exposedBelow channel before).drop n := by
  rw [h.exposedBelow_eq linked] at found ⊢
  rw [h.exposedBelow_eq linked, admittedBelow_last h.messages found]

end Exposed

end Keyed

end ChatSpaces.Tables

namespace ChatSpaces.Service.Deployment

variable {d : Deployment}

/-- The cursor of each page of a channel: none for the first page, then the last message of the page before.
The limits of the pages may differ. -/
inductive Cursor (d : Deployment) (channel : Ident) (limit : Nat → Int) : Nat → Option Ident → Prop
  | first : Cursor d channel limit 0 none
  | next {n before ms last} : Cursor d channel limit n before →
      (d.call (.messagesInChannel channel ⟨before, limit n⟩)).1 = .ok (.many .message ms) →
      ms.getLast? = some last → Cursor d channel limit (n + 1) (some last.id)

theorem call_message (d : Deployment) (v : Visibility) (id : Ident) :
    (d.call (.message v id)).1 = match d.tables.message? v id with
      | some m => .ok (.one .message m)
      | none => .error (.failed (.messageNotFound id)) := by
  simp only [call, work, Call.perform, message, Action.demandMessage, Action.run_map, Action.run_bind,
    Action.run_openUnit, Action.run_demand]
  cases d.tables.message? v id <;> rfl

theorem call_mediaOfMessage (d : Deployment) (v : Visibility) (id : Ident) :
    (d.call (.mediaOfMessage v id)).1 = match d.tables.message? v id with
      | some _ => .ok (.many .media (d.tables.mediaOf v id))
      | none => .error (.failed (.messageNotFound id)) := by
  simp only [call, work, Call.perform, mediaOfMessage, Action.demandMessage, Action.run_map, Action.run_bind,
    Action.run_openUnit, Action.run_demand]
  cases d.tables.message? v id <;> rfl

theorem call_attachMedia (d : Deployment) (id : Ident) {r : AttachMedia} (valid : r.problems = []) :
    (d.call (.attachMedia id r)).1 = match d.tables.message? .live id with
      | some _ =>
        let x : Media := ⟨(d.ids.next d.clocks.wall).1, id, r.storageRef, r.contentType, d.now⟩
        match d.tables.insertMedia x with
        | .ok _ => .ok (.one .media x)
        | .error f => .error (.failed f)
      | none => .error (.failed (.messageNotFound id)) := by
  simp only [call, work, Call.perform, attachMedia, Action.demandMessage, Action.run_map, Action.run_bind,
    Action.run_openUnit, Action.run_check, if_pos valid, Action.run_demand]
  cases d.tables.message? .live id with
  | none => rfl
  | some m =>
    simp only [Action.run_freshIdent, Action.run_write, context]
    generalize d.tables.insertMedia _ = stored
    cases stored <;> rfl

theorem call_channelInSpace (d : Deployment) (v : Visibility) (channel : Ident) :
    (d.call (.channelInSpace v channel)).1 = match d.tables.channelInSpace? v channel with
      | some j => .ok (.one .channelInSpace j)
      | none => .error (.failed (.channelNotFound channel)) := by
  simp only [call, work, Call.perform, channelInSpace, Action.run_map, Action.run_bind, Action.run_openUnit,
    Action.run_demand]
  cases d.tables.channelInSpace? v channel <;> rfl

theorem call_messagesInChannel (d : Deployment) (channel : Ident) {page : MessagePage}
    (valid : page.problems = []) :
    (d.call (.messagesInChannel channel page)).1 =
      match (d.tables.channelInSpace? .live channel).filter (·.spaceIsLive) with
      | some j => .ok (.many .message (d.tables.messagesIn .live j.channel.id page.before page.limit))
      | none => .error (.failed (.channelNotFound channel)) := by
  simp only [call, work, Call.perform, messagesInChannel, Action.demandOpenChannel, Action.run_map, Action.run_bind,
    Action.run_openUnit, Action.run_check, if_pos valid, Action.run_demand]
  cases (d.tables.channelInSpace? .live channel).filter (·.spaceIsLive) <;> rfl

theorem message_eq_ok_iff {id : Ident} {a : Answer} :
    (d.call (.message .live id)).1 = .ok a ↔
      ∃ m, a = .one .message m ∧ d.tables.messages.get? id = some m ∧ d.tables.Exposed m := by
  simp only [← Tables.message?_live_eq_some_iff, call_message]
  cases d.tables.message? .live id with
  | none => simp
  | some m => simp [eq_comm]

theorem mediaOfMessage_isOk_iff {id : Ident} :
    (∃ a, (d.call (.mediaOfMessage .live id)).1 = .ok a) ↔
      ∃ m, d.tables.messages.get? id = some m ∧ d.tables.Exposed m := by
  simp only [← Tables.message?_live_eq_some_iff, call_mediaOfMessage]
  cases d.tables.message? .live id <;> simp

theorem attachMedia_isOk_iff {id : Ident} {r : AttachMedia} (valid : r.problems = [])
    (fresh : d.tables.media.contains (d.ids.next d.clocks.wall).1 = false) :
    (∃ a, (d.call (.attachMedia id r)).1 = .ok a) ↔
      ∃ m, d.tables.messages.get? id = some m ∧ d.tables.Exposed m := by
  simp only [← Tables.message?_live_eq_some_iff, call_attachMedia d id valid]
  cases found : d.tables.message? .live id with
  | none => simp
  | some m =>
    have there : d.tables.messages.contains id = true :=
      Table.contains_of_get? (Tables.message?_live_eq_some_iff.mp found).1
    obtain ⟨u, stored⟩ : ∃ u, d.tables.insertMedia
        ⟨(d.ids.next d.clocks.wall).1, id, r.storageRef, r.contentType, d.now⟩ = .ok u :=
      ⟨_, Tables.insertMedia_eq_ok_iff.mpr ⟨there, fresh, rfl⟩⟩
    simp [stored]

section Pages

variable (keyed : d.tables.Keyed) (linked : d.tables.Linked) {channel : Ident}
include keyed linked

theorem messagesInChannel_of_open (opened : d.tables.OpenChannel channel) {page : MessagePage}
    (valid : page.problems = []) :
    (d.call (.messagesInChannel channel page)).1 =
      .ok (.many .message ((d.tables.exposedBelow channel page.before).take page.limit.toNat)) := by
  obtain ⟨j, joined, live⟩ := Tables.openChannel_iff.mp opened
  have own : j.channel.id = channel := by
    rw [Tables.channelInSpace?, Option.bind_eq_some_iff] at joined
    obtain ⟨c, found, joined⟩ := joined
    obtain ⟨s, -, rfl⟩ := Option.map_eq_some_iff.mp joined
    exact keyed.channels _ _ (Option.filter_eq_some_iff.mp found).1
  rw [call_messagesInChannel d channel valid, joined, Option.filter_some, if_pos live,
    ← linked.messagesIn_live_eq_take]
  simp only [own]

theorem messagesInChannel_eq_ok_iff {page : MessagePage} (valid : page.problems = []) {a : Answer} :
    (d.call (.messagesInChannel channel page)).1 = .ok a ↔ d.tables.OpenChannel channel ∧
      a = .many .message ((d.tables.exposedBelow channel page.before).take page.limit.toNat) := by
  constructor
  · intro listed
    have opened : d.tables.OpenChannel channel := by
      rw [call_messagesInChannel d channel valid] at listed
      apply Tables.openChannel_iff.mpr
      cases found : (d.tables.channelInSpace? .live channel).filter (·.spaceIsLive) with
      | none =>
        rw [found] at listed
        cases listed
      | some j => exact ⟨j, Option.filter_eq_some_iff.mp found⟩
    rw [messagesInChannel_of_open keyed linked opened valid] at listed
    exact ⟨opened, (Except.ok.inj listed).symm⟩
  · rintro ⟨opened, rfl⟩
    exact messagesInChannel_of_open keyed linked opened valid

/-- Behind a page that leaves messages below it stands the page that begins with them. -/
theorem exists_page_of_mem {limit : Nat → Int} (valid : ∀ n, 1 ≤ limit n ∧ limit n ≤ 256)
    (opened : d.tables.OpenChannel channel) {m : Message} {n : Nat} {before : Option Ident}
    (cursor : Cursor d channel limit n before) (mem : m ∈ d.tables.exposedBelow channel before) :
    ∃ n before ms, Cursor d channel limit n before ∧
      (d.call (.messagesInChannel channel ⟨before, limit n⟩)).1 = .ok (.many .message ms) ∧ m ∈ ms := by
  induction size : (d.tables.exposedBelow channel before).length using Nat.strongRecOn generalizing n before with
  | ind size' ih =>
    subst size
    have accepted : (⟨before, limit n⟩ : MessagePage).problems = [] :=
      Request.problemUnless_eq_nil_iff.mpr (valid n)
    have page := messagesInChannel_of_open keyed linked opened accepted
    by_cases here : m ∈ (d.tables.exposedBelow channel before).take (limit n).toNat
    · exact ⟨n, before, _, cursor, page, here⟩
    · have positive : 0 < (limit n).toNat := by
        have := (valid n).1
        omega
      have nonempty : 0 < (d.tables.exposedBelow channel before).length := List.length_pos_of_mem mem
      have taken : (d.tables.exposedBelow channel before).take (limit n).toNat ≠ [] := by
        intro empty
        have length := congrArg List.length empty
        rw [List.length_take, List.length_nil] at length
        omega
      obtain ⟨last, found⟩ := Option.isSome_iff_exists.mp (List.getLast?_isSome.mpr taken)
      have rest := keyed.exposedBelow_last linked found
      have behind : m ∈ d.tables.exposedBelow channel (some last.id) := by
        rw [rest]
        rw [← List.take_append_drop (limit n).toNat (d.tables.exposedBelow channel before)] at mem
        exact (List.mem_append.mp mem).resolve_left here
      refine ih _ ?_ (cursor.next page found) behind rfl
      rw [rest, List.length_drop]
      omega

end Pages

/-- In every state that a service can reach, a message can be read, its media can be listed and media can be
attached to it exactly if it is stored and neither it nor its channel nor its space is deleted. The messages of
a channel can be listed exactly if the channel is found with a space that is not deleted; what a page shows is
what reading each message shows; and every message of the channel that can be read, with whatever identifier but
the greatest, stands on one of the pages that the cursors lead to. -/
theorem live_message_paths_agree (h : d.Reachable) :
    (∀ i,
      (∀ a, (d.call (.message .live i)).1 = .ok a ↔
        ∃ m, a = .one .message m ∧ d.tables.messages.get? i = some m ∧ d.tables.Exposed m) ∧
      ((∃ a, (d.call (.mediaOfMessage .live i)).1 = .ok a) ↔
        ∃ m, d.tables.messages.get? i = some m ∧ d.tables.Exposed m) ∧
      ∀ r : AttachMedia, (1 ≤ r.storageRef.length ∧ r.storageRef.length ≤ 2048) →
        (1 ≤ r.contentType.length ∧ r.contentType.length ≤ 255) →
        d.tables.media.contains (d.ids.next d.clocks.wall).1 = false →
        ((∃ a, (d.call (.attachMedia i r)).1 = .ok a) ↔
          ∃ m, d.tables.messages.get? i = some m ∧ d.tables.Exposed m)) ∧
    (∀ channel (page : MessagePage), (1 ≤ page.limit ∧ page.limit ≤ 256) →
      ((∃ a, (d.call (.messagesInChannel channel page)).1 = .ok a) ↔
        ∃ j, (d.call (.channelInSpace .live channel)).1 = .ok (.one .channelInSpace j) ∧
          j.spaceIsLive = true) ∧
      ∀ a, (d.call (.messagesInChannel channel page)).1 = .ok a → ∃ ms, a = .many .message ms ∧
        ∀ m ∈ ms, (d.call (.message .live m.id)).1 = .ok (.one .message m)) ∧
    ∀ (limit : Nat → Int), (∀ n, 1 ≤ limit n ∧ limit n ≤ 256) →
      ∀ i m, i < .greatest → (d.call (.message .live i)).1 = .ok (.one .message m) →
        ∃ n before ms, Cursor d m.channel limit n before ∧
          (d.call (.messagesInChannel m.channel ⟨before, limit n⟩)).1 = .ok (.many .message ms) ∧ m ∈ ms := by
  have keyed : d.tables.Keyed := h.served.built.keyed
  have linked : d.tables.Linked := h.served.built.linked
  refine ⟨?_, ?_, ?_⟩
  · intro i
    refine ⟨fun a => message_eq_ok_iff, mediaOfMessage_isOk_iff, ?_⟩
    intro r storageRef contentType fresh
    have valid : r.problems = [] := by
      rw [AttachMedia.problems, List.append_eq_nil_iff]
      exact ⟨Request.problemUnless_eq_nil_iff.mpr contentType, Request.problemUnless_eq_nil_iff.mpr storageRef⟩
    exact attachMedia_isOk_iff valid fresh
  · intro channel page limits
    have valid : page.problems = [] := Request.problemUnless_eq_nil_iff.mpr limits
    have joined (j : ChannelInSpace) : (d.call (.channelInSpace .live channel)).1 = .ok (.one .channelInSpace j) ↔
        d.tables.channelInSpace? .live channel = some j := by
      rw [call_channelInSpace]
      cases d.tables.channelInSpace? .live channel <;> simp [Answer.one]
    constructor
    · simp only [messagesInChannel_eq_ok_iff keyed linked valid, exists_and_left, exists_eq, and_true,
        Tables.openChannel_iff]
      exact exists_congr fun j => and_congr_left fun _ => (joined j).symm
    · intro a listed
      obtain ⟨-, rfl⟩ := (messagesInChannel_eq_ok_iff keyed linked valid).mp listed
      refine ⟨_, rfl, ?_⟩
      intro m mem
      obtain ⟨stored, exposed, -⟩ := (keyed.mem_exposedBelow_iff linked).mp (List.mem_of_mem_take mem)
      exact message_eq_ok_iff.mpr ⟨m, rfl, stored, exposed⟩
  · intro limit valid i m below read
    obtain ⟨m', same, stored, exposed⟩ := message_eq_ok_iff.mp read
    cases same
    have own : m.id = i := keyed.messages i m stored
    apply exists_page_of_mem keyed linked valid exposed.2 .first
    exact (keyed.mem_exposedBelow_iff linked).mpr ⟨own ▸ stored, exposed, rfl, own ▸ below⟩

/-- Messages 4, 5 and 6 are posted in channel 3, and 5 is deleted. Media can be attached to 4 and not to 5, and
whoever reads page by page with one message each comes across 4. -/
theorem live_message_paths_agree_pages :
    let d := blank.after [.call (.createUser ⟨"ann", none⟩), .call (.createSpace ⟨1⟩ ⟨"home", none⟩),
      .call (.createChannel ⟨2⟩ ⟨"news"⟩), .call (.addChannelMember ⟨3⟩ ⟨1⟩),
      .call (.postMessage ⟨3⟩ ⟨1⟩ ⟨"one"⟩), .call (.postMessage ⟨3⟩ ⟨1⟩ ⟨"two"⟩),
      .call (.postMessage ⟨3⟩ ⟨1⟩ ⟨"three"⟩), .call (.deleteMessageAs ⟨1⟩ ⟨5⟩)]
    let m : Message := ⟨⟨4⟩, ⟨3⟩, ⟨1⟩, "one", false, .ofMillis 0, .ofMillis 0⟩
    let media : AttachMedia := ⟨"ref", "image/png"⟩
    (∃ a, (d.call (.attachMedia ⟨4⟩ media)).1 = .ok a) ∧ (¬ ∃ a, (d.call (.attachMedia ⟨5⟩ media)).1 = .ok a) ∧
      ∃ n before ms, Cursor d ⟨3⟩ (fun _ => 1) n before ∧
        (d.call (.messagesInChannel ⟨3⟩ ⟨before, 1⟩)).1 = .ok (.many .message ms) ∧ m ∈ ms := by
  intro d m media
  obtain ⟨each, -, paged⟩ := live_message_paths_agree (d := d) (reachable_blank_after _)
  have stored : d.tables.messages.get? ⟨4⟩ = some m := by decide
  have exposed : d.tables.Exposed m :=
    ⟨rfl, ⟨⟨3⟩, ⟨2⟩, "news", false, .ofMillis 0, .ofMillis 0⟩,
      ⟨⟨2⟩, "home", "", ⟨1⟩, false, .ofMillis 0, .ofMillis 0⟩, by decide, rfl, by decide, rfl⟩
  refine ⟨?_, ?_, ?_⟩
  · exact ((each ⟨4⟩).2.2 media (by decide) (by decide) (by decide)).mpr ⟨m, stored, exposed⟩
  · rw [(each ⟨5⟩).2.2 media (by decide) (by decide) (by decide)]
    rintro ⟨gone, found, stays, -⟩
    have marked : (d.tables.messages.get? ⟨5⟩).map (·.deleted) = some true := by decide
    rw [found, Option.map_some, stays] at marked
    cases marked
  · exact paged (fun _ => 1) (fun _ => by decide) ⟨4⟩ m (by decide) (((each ⟨4⟩).1 _).mpr ⟨m, rfl, stored, exposed⟩)

end ChatSpaces.Service.Deployment
