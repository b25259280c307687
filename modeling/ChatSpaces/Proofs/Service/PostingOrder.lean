import ChatSpaces.Proofs.Service.Course

/-!
# The order of posting

Whoever posts a message draws its identifier inside the unit of work that stores it, and nobody else is inside
then. So messages are committed in the order of their identifiers, even though identifiers for other things are
drawn outside and in between, and however the clocks go.
-/

namespace ChatSpaces.Service

namespace Call

def posts : Call → Bool
  | postMessage .. => true
  | _ => false

theorem posts_of_isRead {call : Call} (reads : call.isRead = true) : call.posts = false := by
  cases call with
  | postMessage => cases reads
  | _ => rfl

end Call

namespace Deed

def post? : Deed → Option Message
  | .call _ (.postMessage ..) (.ok (.entity (some (.message m)))) => some m
  | _ => none

theorem post?_of_not_posts {now : Time.Instant} {call : Call} {result : Except Refusal Answer}
    (apart : call.posts = false) : (Deed.call now call result).post? = none := by
  cases call with
  | postMessage => cases apart
  | _ => rfl

theorem post?_of_refused {now : Time.Instant} {call : Call} {r : Refusal} :
    (Deed.call now call (.error r)).post? = none := by
  cases call <;> rfl

end Deed

def Action.DrawsInside {α : Type} : Action α → Prop
  | .done _ | .refuse _ | .enter _ => True
  | .touch _ next => ∀ b, (next b).DrawsInside
  | .draw _ _ => False
  | .commit rest => rest.DrawsInside

theorem drawsInside_of_posts {call : Call} (posts : call.posts = true) (c : Context) :
    (call.perform c).DrawsInside := by
  cases call with
  | postMessage channel author r =>
    change (Action.bind _ _).DrawsInside
    unfold postMessage Action.check
    split <;> trivial
  | _ => cases posts

/-- A client that posts has drawn nothing before its unit of work has begun. What it has drawn within it is above
all that has been posted, and not above the latest identifier. -/
def Session.Fits (x : Session) (posts : List Message) (latest : Ident) : Option Tables → Prop
  | none => x.drawn = [] ∧ x.rest.DrawsInside
  | some _ => ∀ i ∈ x.drawn, (∀ p ∈ posts, p.id < i) ∧ i ≤ latest

theorem Session.Fits.mono {x : Session} {posts : List Message} {latest latest' : Ident} {copy : Option Tables}
    (h : x.Fits posts latest copy) (later : latest ≤ latest') : x.Fits posts latest' copy := by
  cases copy with
  | none => exact h
  | some t => exact fun i mem => ⟨(h i mem).1, Int.le_trans (h i mem).2 later⟩

namespace System

open Function (update)
open Store (Shared)

variable {ι : Type} {s u v : System ι} {posts : List Message}

/-- What has been posted stands in the order of the identifiers, and whoever is about to post comes after it. -/
structure Ordered (s : System ι) (posts : List Message) : Prop where
  increasing : posts.Pairwise fun p q => p.id < q.id
  drawn : ∀ p ∈ posts, p.id ≤ s.ids.latest
  sessions : ∀ i x, s.sessions i = some x → x.call.posts = true → x.Fits posts s.ids.latest (s.store.copies i)

namespace Ordered

theorem start (ids : Generator) : Ordered (start ids : System ι) [] where
  increasing := List.Pairwise.nil
  drawn _ mem := nomatch mem
  sessions _ _ busy := nomatch busy

theorem of_others (h : s.Ordered posts) {store : Shared ι} {ids : Generator} (later : s.ids.latest ≤ ids.latest)
    (copies : store.copies = s.store.copies) : Ordered ⟨store, ids, s.sessions⟩ posts where
  increasing := h.increasing
  drawn p mem := Int.le_trans (h.drawn p mem) later
  sessions j x busy writes := by
    change x.Fits posts ids.latest (store.copies j)
    rw [copies]
    exact (h.sessions j x busy writes).mono later

theorem snoc (h : s.Ordered posts) (outside : ∀ i, s.store.copies i = none) {m : Message}
    (above : ∀ p ∈ posts, p.id < m.id) (drawn : m.id ≤ s.ids.latest) : s.Ordered (posts ++ [m]) where
  increasing := by
    refine List.pairwise_append.mpr ⟨h.increasing, List.pairwise_singleton _ _, fun p mem q last => ?_⟩
    cases List.mem_singleton.mp last
    exact above p mem
  drawn p mem := by
    rcases List.mem_append.mp mem with earlier | last
    · exact h.drawn p earlier
    · cases List.mem_singleton.mp last
      exact drawn
  sessions i x busy writes := by
    have fits := h.sessions i x busy writes
    rw [outside i] at fits ⊢
    exact fits

variable [DecidableEq ι] {o : Option (Commit ι)} {read : Option Int}

theorem of_client (h : s.Ordered posts) {store : Shared ι} {ids : Generator} {i : ι} {now : Option Session}
    (later : s.ids.latest ≤ ids.latest) (others : ∀ j, j ≠ i → store.copies j = s.store.copies j)
    (own : ∀ x, now = some x → x.call.posts = true → x.Fits posts ids.latest (store.copies i)) :
    Ordered ⟨store, ids, update s.sessions i now⟩ posts where
  increasing := h.increasing
  drawn p mem := Int.le_trans (h.drawn p mem) later
  sessions j x busy writes := by
    change update s.sessions i now j = some x at busy
    change x.Fits posts ids.latest (store.copies j)
    by_cases eq : j = i
    · subst eq
      rw [Function.update_self] at busy
      exact own x busy writes
    · rw [Function.update_of_ne eq] at busy
      rw [others j eq]
      exact (h.sessions j x busy writes).mono later

theorem move (h : s.Ordered posts) (sound : s.Sound) (move : Move s o u) (reads : Reads s u read)
    (forward : ∀ wall, read = some wall → s.ids.latest < u.ids.latest) : u.Ordered posts := by
  have same : s.ids.latest ≤ s.ids.latest := Int.le_refl _
  cases move with
  | @submit i idle call c =>
    refine h.of_client same (fun _ _ => rfl) ?_
    rintro _ ⟨⟩ writes
    rw [sound.idle i idle]
    exact ⟨rfl, drawsInside_of_posts writes c⟩
  | @enter i x rest busy next free =>
    have copy := sound.locked.copies_of_free free i
    rw [Shared.take_begin copy]
    refine h.of_client same (fun _ other => Function.update_of_ne other ..) ?_
    rintro _ ⟨⟩ writes
    have fits := h.sessions i x busy writes
    rw [copy] at fits
    simp only [Function.update_self]
    -- Outside it has drawn nothing.
    intro id mem
    rw [fits.1] at mem
    cases mem
  | @touch i x t β f rest busy next copy =>
    refine h.of_client same (fun _ other => Function.update_of_ne other ..) ?_
    rintro _ ⟨⟩ writes
    have fits := h.sessions i x busy writes
    rw [copy] at fits
    simp only [Function.update_self]
    exact fits
  | @draw i x wall rest busy next =>
    have ahead : s.ids.latest < (s.ids.next wall).2.latest := by
      cases read with
      | some wall' => exact forward wall' rfl
      | none =>
        -- The client has got an identifier, so something has been read.
        rcases reads.2 i _ (Function.update_self ..) with nothing | ⟨y, busy', kept⟩
        · exact absurd nothing (by simp)
        · cases busy.symm.trans busy'
          exact absurd (congrArg List.length kept) (by simp)
    refine h.of_client (Int.le_of_lt ahead) (fun _ _ => rfl) ?_
    rintro _ ⟨⟩ writes
    have fits := h.sessions i x busy writes
    cases copy : s.store.copies i with
    | none =>
      rw [copy] at fits
      have inside := fits.2
      rw [next] at inside
      cases inside
    | some t =>
      rw [copy] at fits
      intro j mem
      rcases List.mem_append.mp mem with earlier | last
      · exact ⟨(fits j earlier).1, Int.le_trans (fits j earlier).2 (Int.le_of_lt ahead)⟩
      · cases List.mem_singleton.mp last
        exact ⟨fun p posted => Int.lt_of_le_of_lt (h.drawn p posted) ahead, Int.le_refl _⟩
  | @commit i x a busy next inside =>
    obtain ⟨t, copy⟩ := Option.ne_none_iff_exists'.mp inside
    rw [Shared.take_commit copy]
    exact h.of_client same (fun _ other => Function.update_of_ne other ..) (by rintro _ ⟨⟩)
  | @drop i x busy inside =>
    obtain ⟨t, copy⟩ := Option.ne_none_iff_exists'.mp inside
    rw [Shared.take_rollback copy]
    exact h.of_client same (fun _ other => Function.update_of_ne other ..) (by rintro _ ⟨⟩)
  | leave busy outside => exact h.of_client same (fun _ _ => rfl) (by rintro _ ⟨⟩)
  | skip wall =>
    have later : s.ids.latest ≤ (s.ids.next wall).2.latest := by
      cases read with
      | some wall' => exact Int.le_of_lt (forward wall' rfl)
      | none =>
        have still : (s.ids.next wall).2 = s.ids := reads.1
        rw [still]
        exact same
    exact h.of_others later rfl
  | @teardown i free =>
    rw [Shared.take_teardown (sound.locked.copies_of_free free i)]
    exact h.of_others same rfl

/-- Whoever commits a post is inside, and the message has the identifier that was drawn there. -/
theorem commit (h : s.Ordered posts) (sound : s.Sound) (after : u.Ordered posts) {i : ι} {c : Context} {call : Call}
    {l : List Ident} {a : Answer} (move : Move s (some (.call i c call l a)) u) :
    u.Ordered (posts ++ (Deed.call c.now call (.ok a)).post?.toList) := by
  cases writes : call.posts with
  | false =>
    rw [Deed.post?_of_not_posts writes, Option.toList_none, List.append_nil]
    exact after
  | true =>
    have effect := effect_of_commit sound move
    obtain ⟨drawn, outside⟩ : (∀ j ∈ l, (∀ p ∈ posts, p.id < j) ∧ j ≤ u.ids.latest) ∧
        ∀ j, u.store.copies j = none := by
      cases move with
      | @commit _ x _ busy next inside =>
        obtain ⟨t, copy⟩ := Option.ne_none_iff_exists'.mp inside
        have fits := h.sessions i x busy writes
        rw [copy] at fits
        rw [Shared.take_commit copy]
        exact ⟨fits, sound.locked.copies_of_released inside⟩
    generalize s.store.committed = before at effect
    generalize u.store.committed = left at effect
    cases effect with
    | look reads =>
      rw [Call.posts_of_isRead reads] at writes
      cases writes
    | postMessage _ _ made _ =>
      subst made
      exact after.snoc outside (drawn _ (.head _)).1 (drawn _ (.head _)).2
    | _ => cases writes

theorem step (h : s.Ordered posts) (sound : s.Sound) {o : Option Deed} (step : Step s o u) (reads : Reads s u read)
    (forward : ∀ wall, read = some wall → s.ids.latest < u.ids.latest) :
    u.Ordered (posts ++ (o.bind Deed.post?).toList) := by
  obtain ⟨c, move⟩ := step.move
  have after := h.move sound move reads forward
  have same (nothing : o.bind Deed.post? = none) : u.Ordered (posts ++ (o.bind Deed.post?).toList) := by
    rw [nothing, Option.toList_none, List.append_nil]
    exact after
  cases step with
  | commit move => exact h.commit sound after move
  | teardown => exact same rfl
  | @tell i x result u busy ended move idle =>
    cases result with
    | error r => exact same Deed.post?_of_refused
    | ok a => exact same (Deed.post?_of_not_posts (Call.posts_of_isRead (sound.isRead_of_answered busy ended)))
  | quiet => exact same rfl

end Ordered

/-- As long as the generator stays within its bits, whatever the clients do: what has been posted stands in the
order of the identifiers. -/
theorem Timed.ordered [DecidableEq ι] {ids : Generator} {ds : List Deed} {walls : List Int}
    (course : Timed (System.start ids) ds walls s) (within : ids.Within walls) :
    s.ids = ids.afterDraws walls ∧ s.Ordered (ds.filterMap Deed.post?) := by
  induction course with
  | refl => exact ⟨rfl, .start ids⟩
  | @step ds walls u o v read before step reads ih =>
    obtain ⟨drawn, ordered⟩ := ih within.of_append
    have sound := before.course.sound (.start ids)
    have posts : (ds ++ o.toList).filterMap Deed.post? = ds.filterMap Deed.post? ++ (o.bind Deed.post?).toList := by
      cases o with
      | none => simp
      | some x => exact filterMap_snoc Deed.post?
    rw [posts]
    cases read with
    | none =>
      rw [Option.toList_none, List.append_nil]
      exact ⟨reads.1.trans drawn, ordered.step sound step reads nofun⟩
    | some wall =>
      have next : v.ids = (u.ids.next wall).2 := reads
      refine ⟨?_, ordered.step sound step reads fun _ _ => ?_⟩
      · rw [next, drawn, Option.toList_some, Generator.afterDraws_concat]
      · rw [next, drawn]
        exact within.latest_lt

end System

end ChatSpaces.Service
