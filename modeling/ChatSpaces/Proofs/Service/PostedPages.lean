import ChatSpaces.Proofs.Service.ContentHistory
import ChatSpaces.Proofs.Service.PostingOrder
import Mathlib.Data.List.Sort

/-!
# Pages of what has been posted

The pages of a channel show in reverse the order in which the messages were committed. Whatever is posted later
stands above a message that has been posted, so a page below it never changes by that.
-/

namespace ChatSpaces

namespace Tables

variable {t : Tables} {posts : List Message} {channel : Ident} {before : Option Ident}

/-- Of what has been posted in a channel, each message that can still be read, as it now is and the last one first.
With a cursor only those below it. -/
def latestFirst (t : Tables) (posts : List Message) (channel : Ident) (before : Option Ident) : List Message :=
  (posts.reverse.filterMap fun p => t.message? .live p.id).filter
    fun m => decide (m.channel = channel) && before.all fun b => decide (m.id < b)

section Listing

variable (keyed : t.Keyed)
include keyed

theorem latestFirst_decreasing (increasing : posts.Pairwise fun p q => p.id < q.id) :
    (t.latestFirst posts channel before).Pairwise fun m n => n.id < m.id := by
  refine List.Pairwise.filter _ (List.pairwise_filterMap.mpr ?_)
  rw [List.pairwise_reverse]
  refine increasing.imp ?_
  intro p q lower m found n found'
  have own : m.id = q.id := keyed.messages _ _ (message?_live_eq_some_iff.mp found).1
  have own' : n.id = p.id := keyed.messages _ _ (message?_live_eq_some_iff.mp found').1
  rw [own, own']
  exact lower

theorem mem_latestFirst_iff (all : ∀ m, t.messages.get? m.id = some m → ∃ p ∈ posts, p.id = m.id)
    {m : Message} :
    m ∈ t.latestFirst posts channel before ↔
      t.messages.get? m.id = some m ∧ t.Exposed m ∧ m.channel = channel ∧ ∀ b ∈ before, m.id < b := by
  simp only [latestFirst, List.mem_filter, List.mem_filterMap, List.mem_reverse, message?_live_eq_some_iff,
    Bool.and_eq_true, decide_eq_true_eq, Option.all_eq_true]
  constructor
  · rintro ⟨⟨p, -, stored, exposed⟩, here, below⟩
    have own : m.id = p.id := keyed.messages _ _ stored
    exact ⟨own ▸ stored, exposed, here, fun b given => below b given⟩
  · rintro ⟨stored, exposed, here, below⟩
    obtain ⟨p, posted, own⟩ := all m stored
    exact ⟨⟨p, posted, own ▸ stored, exposed⟩, here, fun b given => below b given⟩

/-- If what has been posted stands in the order of the identifiers, and all messages have been posted, the pages
show it in reverse. -/
theorem latestFirst_eq (linked : t.Linked) (increasing : posts.Pairwise fun p q => p.id < q.id)
    (all : ∀ m, t.messages.get? m.id = some m → ∃ p ∈ posts, p.id = m.id)
    (bounded : ∀ p ∈ posts, p.id < .greatest) :
    t.latestFirst posts channel before = t.exposedBelow channel before := by
  have decreasing : (t.exposedBelow channel before).Pairwise fun m n => n.id < m.id := by
    rw [keyed.exposedBelow_eq linked]
    exact admittedBelow_decreasing keyed.messages .live channel before
  have irrefl : Std.Irrefl fun m n : Message => n.id < m.id := ⟨fun m => Int.lt_irrefl _⟩
  have antisymm : Std.Antisymm fun m n : Message => n.id < m.id := ⟨fun m n lt gt => absurd lt (Int.lt_asymm gt)⟩
  refine (latestFirst_decreasing keyed increasing).eq_of_mem_iff decreasing fun m => ?_
  rw [mem_latestFirst_iff keyed all, keyed.mem_exposedBelow_iff linked]
  refine and_congr_right fun stored => and_congr_right fun _ => and_congr_right fun _ => ?_
  cases before with
  | some b => simp
  | none =>
    obtain ⟨p, posted, own⟩ := all m stored
    simp [← own, bounded p posted]

end Listing

end Tables

namespace Service

variable {t u : Tables} {ds : List Deed} {x : Deed} {b : Ident}

namespace Deed

def postsAtMost : Deed → Bool
  | .call _ c (.ok _) => c.posts || c.isRead
  | .call _ _ (.error _) => true
  | .teardown => false

theorem posted?_eq_some_iff {x : Deed} {i : Ident} {p : Message} :
    x.posted? i = some p ↔ x.post? = some p ∧ p.id = i := by
  unfold posted?
  split
  · next now channel author r m =>
    simp only [post?, Option.ite_none_right_eq_some, Option.some.injEq]
    constructor
    · rintro ⟨own, rfl⟩
      exact ⟨rfl, own⟩
    · rintro ⟨rfl, own⟩
      exact ⟨own, rfl⟩
  · next other =>
    rw [post?.eq_2 x other]
    simp

end Deed

theorem Told.posted {i : Ident} {m : Message} (told : Told i ds (some m)) :
    ∃ p ∈ ds.filterMap Deed.post?, p.id = i := by
  cases told with
  | @stored m p once =>
    have mem : p ∈ ds.filterMap (·.posted? i) := once ▸ List.mem_singleton_self p
    obtain ⟨x, done, posted⟩ := List.mem_filterMap.mp mem
    obtain ⟨post, own⟩ := Deed.posted?_eq_some_iff.mp posted
    exact ⟨p, List.mem_filterMap.mpr ⟨x, done, post⟩, own⟩

theorem Deed.Leads.sameBelow (leads : x.Leads t u) (only : x.postsAtMost = true)
    (above : ∀ p ∈ x.post?, b < p.id) : Tables.SameBelow b t u := by
  cases leads with
  | refused => exact .refl b t
  | teardown => cases only
  | answered effect =>
    cases effect with
    | look => exact .refl b t
    | postMessage _ _ made ok =>
      obtain ⟨-, -, -, rfl⟩ := Tables.insertMessage_eq_ok_iff.mp ok
      exact ⟨rfl, rfl, Table.below_insert _ _ (Int.le_of_lt (above _ rfl))⟩
    | _ => cases only

theorem Record.sameBelow (record : Record t ds u) (only : ∀ x ∈ ds, x.postsAtMost = true)
    (above : ∀ p ∈ ds.filterMap Deed.post?, b < p.id) : Tables.SameBelow b t u := by
  induction record with
  | nil => exact .refl b t
  | @snoc ds x u v before leads ih =>
    have earlier := ih (fun y mem => only y (List.mem_append_left _ mem))
      (fun p mem => above p (by rw [List.filterMap_append]; exact List.mem_append_left _ mem))
    have last : x ∈ ds ++ [x] := List.mem_append_right _ (.head _)
    refine earlier.trans (leads.sameBelow (only x last) fun p post => above p ?_)
    exact List.mem_filterMap.mpr ⟨x, last, post⟩

namespace Deployment

theorem messagesInChannel_of_sameBelow {d e : Deployment} (same : Tables.SameBelow b d.tables e.tables)
    (channel : Ident) (limit : Int) :
    (e.call (.messagesInChannel channel ⟨some b, limit⟩)).1 =
      (d.call (.messagesInChannel channel ⟨some b, limit⟩)).1 := by
  by_cases valid : (⟨some b, limit⟩ : MessagePage).problems = []
  · rw [call_messagesInChannel e channel valid, call_messagesInChannel d channel valid, same.channelInSpace?]
    simp only [same.messagesIn]
  · simp only [call, work, Call.perform, messagesInChannel, Action.run_map, Action.run_bind, Action.run_check,
      if_neg valid]

end Deployment

theorem sublist_sinceTeardown (ds : List Deed) : (sinceTeardown ds).Sublist ds :=
  (List.rtakeWhile_suffix _ ds).sublist

namespace System

variable {ι : Type} [DecidableEq ι]

/-- As long as the generator stays within its bits, whatever the clients of an empty store do side by side and
however the clocks go: the pages of a channel show, in the reverse of the order in which they were committed, what
has been posted there since the last teardown and can still be read. Below a message that was ever posted nothing
changes by further posts, looks and refusals. -/
theorem pages_follow_posting_order {ids : Generator} {ds : List Deed} {walls : List Int} {s : System ι}
    (course : Timed (start ids) ds walls s) (within : ids.Within walls) :
    (∀ d : Deployment, d.tables = s.store.committed →
      ∀ channel (page : MessagePage), (1 ≤ page.limit ∧ page.limit ≤ 256) → ∀ a,
        (d.call (.messagesInChannel channel page)).1 = .ok a ↔ d.tables.OpenChannel channel ∧
          a = .many .message ((d.tables.latestFirst ((sinceTeardown ds).filterMap Deed.post?) channel
            page.before).take page.limit.toNat)) ∧
    ∀ (es : List Deed) (walls' : List Int) (v : System ι), Timed s es walls' v → ids.Within (walls ++ walls') →
      (∀ x ∈ es, x.postsAtMost = true) → ∀ p ∈ ds.filterMap Deed.post?,
        ∀ d e : Deployment, d.tables = s.store.committed → e.tables = v.store.committed → ∀ channel limit,
          (e.call (.messagesInChannel channel ⟨some p.id, limit⟩)).1 =
            (d.call (.messagesInChannel channel ⟨some p.id, limit⟩)).1 := by
  have record : Record ∅ ds s.store.committed := course.course.record (.start ids)
  have built : s.store.committed.Built := (record.served .empty).built
  constructor
  · intro d reads channel page limits a
    have valid : page.problems = [] := Request.problemUnless_eq_nil_iff.mpr limits
    rw [← reads] at record built
    obtain ⟨drawn, ordered⟩ := course.ordered within
    have since := (sublist_sinceTeardown ds).filterMap Deed.post?
    rw [Deployment.messagesInChannel_eq_ok_iff built.keyed built.linked valid,
      ← Tables.latestFirst_eq built.keyed built.linked (ordered.increasing.sublist since)]
    · intro m stored
      exact Told.posted (stored ▸ record.told m.id)
    · intro p posted
      exact Int.lt_of_le_of_lt (ordered.drawn p (since.subset posted)) (drawn ▸ within.latest_lt_greatest)
  · intro es walls' v onward within' only p posted d e before after channel limit
    obtain ⟨-, ordered⟩ := (course.trans onward).ordered within'
    have increasing := ordered.increasing
    rw [List.filterMap_append, List.pairwise_append] at increasing
    have same : Tables.SameBelow p.id d.tables e.tables := by
      rw [before, after]
      exact (onward.course.record (course.course.sound (.start ids))).sameBelow only (increasing.2.2 p posted)
    exact Deployment.messagesInChannel_of_sameBelow same channel limit

/-- The clock shows five milliseconds beyond the epoch for the first message and 1970 for the second one, which
stands above it all the same. The third one, at a reading before 1970, changes nothing below the second. -/
theorem pages_follow_posting_order_stepping_back :
    let setup : List Deployment.Event := [.call (.createUser ⟨"ann", none⟩), .call (.createSpace ⟨1⟩ ⟨"home", none⟩),
      .call (.createChannel ⟨2⟩ ⟨"news"⟩), .call (.addChannelMember ⟨3⟩ ⟨1⟩), .setWall 1704067200005,
      .call (.postMessage ⟨3⟩ ⟨1⟩ ⟨"one"⟩), .setWall 0, .call (.postMessage ⟨3⟩ ⟨1⟩ ⟨"two"⟩)]
    let d := Deployment.blank.after setup
    let e := d.after [.setWall (-5), .call (.postMessage ⟨3⟩ ⟨1⟩ ⟨"three"⟩)]
    let one : Message := ⟨⟨20971520⟩, ⟨3⟩, ⟨1⟩, "one", false, .ofMillis 0, .ofMillis 0⟩
    let two : Message := ⟨⟨20971521⟩, ⟨3⟩, ⟨1⟩, "two", false, .ofMillis 0, .ofMillis 0⟩
    e.tables.messages.size = 3 ∧
      (d.call (.messagesInChannel ⟨3⟩ ⟨none, 2⟩)).1 = .ok (.many .message [two, one]) ∧
      (e.call (.messagesInChannel ⟨3⟩ ⟨some two.id, 2⟩)).1 =
        (d.call (.messagesInChannel ⟨3⟩ ⟨some two.id, 2⟩)).1 := by
  intro setup d e one two
  have course : Timed (start Deployment.blank.ids : System Bool) _ _ _ := timed_of_events true Deployment.blank setup
  have onward : Timed (resting d fun _ => none : System Bool) _ _ (resting e fun _ => none) :=
    timed_of_events true d [.setWall (-5), .call (.postMessage ⟨3⟩ ⟨1⟩ ⟨"three"⟩)]
  have within : Deployment.blank.ids.Within (Deployment.blank.readings setup ++
      d.readings [.setWall (-5), .call (.postMessage ⟨3⟩ ⟨1⟩ ⟨"three"⟩)]) := by
    constructor <;> decide
  obtain ⟨listed, stable⟩ := pages_follow_posting_order course within.of_append
  have opened : d.tables.OpenChannel ⟨3⟩ :=
    ⟨⟨⟨3⟩, ⟨2⟩, "news", false, .ofMillis 0, .ofMillis 0⟩, ⟨⟨2⟩, "home", "", ⟨1⟩, false, .ofMillis 0, .ofMillis 0⟩,
      by decide, rfl, by decide, rfl⟩
  have posts : (sinceTeardown (Deployment.blank.history setup)).filterMap Deed.post? = [one, two] := by decide
  have latest : (d.tables.latestFirst [one, two] ⟨3⟩ none).take 2 = [two, one] := by decide
  refine ⟨by decide, ?_, ?_⟩
  · refine (listed d rfl ⟨3⟩ ⟨none, 2⟩ (by decide) _).mpr ⟨opened, ?_⟩
    rw [posts]
    exact congrArg (Answer.many .message) latest.symm
  · exact stable _ _ _ onward within (by decide) two (by decide) d e rfl (committed_resting ..).symm ⟨3⟩ 2

end System

end Service

end ChatSpaces
