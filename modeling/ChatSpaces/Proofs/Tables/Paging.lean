import ChatSpaces.Proofs.Tables.Visibility

/-!
# Pages of a channel

The messages of all channels stand in one table, in the order of their identifiers and with deleted ones among
them. A page is the beginning of what a visibility admits of one channel below a cursor. Each next cursor leaves
what the pages before it did not show, so a walk along the cursors ends and shows every message once, however
long the pages are.

What is put above a cursor changes nothing below it. Without a cursor a page begins below the greatest identifier,
which is an identifier like any other: a message that has it stands on no page.
-/

namespace ChatSpaces.Tables

section Admitted

variable (t : Tables) (v : Visibility) (channel : Ident)

/-- The messages of a channel that the visibility admits, latest first: none unless it admits the channel and
its space. -/
def admitted : List Message :=
  if t.admitsChannel v channel then
    (t.messages.rows.filter fun m => decide (m.channel = channel) && v.admits m.deleted).reverse
  else []

/-- Those below a cursor; without one, those below the greatest identifier. -/
def admittedBelow (before : Option Ident) : List Message :=
  (t.admitted v channel).filter fun m => m.id < before.getD .greatest

structure Admits (m : Message) : Prop where
  stored : t.messages.get? m.id = some m
  here : m.channel = channel
  own : v.admits m.deleted = true
  above : ∃ c s, t.channels.get? channel = some c ∧ v.admits c.deleted = true ∧
    t.spaces.get? c.space = some s ∧ v.admits s.deleted = true

end Admitted

variable {t : Tables} {v : Visibility} {channel : Ident}

theorem admitsChannel_iff : t.admitsChannel v channel = true ↔ ∃ c s, t.channels.get? channel = some c ∧
    v.admits c.deleted = true ∧ t.spaces.get? c.space = some s ∧ v.admits s.deleted = true := by
  simp only [admitsChannel, channel?, space?, Option.isSome_iff_exists, Option.bind_eq_some_iff,
    Option.filter_eq_some_iff]
  constructor
  · rintro ⟨s, c, ⟨found, admitted⟩, space, admitted'⟩
    exact ⟨c, s, found, admitted, space, admitted'⟩
  · rintro ⟨c, s, found, admitted, space, admitted'⟩
    exact ⟨s, c, ⟨found, admitted⟩, space, admitted'⟩

section Listing

variable (keyed : t.messages.KeyedBy Message.id)
include keyed

theorem mem_admitted_iff {m : Message} : m ∈ t.admitted v channel ↔ t.Admits v channel m := by
  rw [admitted]
  split
  · next parent =>
    simp only [List.mem_reverse, List.mem_filter, Bool.and_eq_true, decide_eq_true_eq]
    constructor
    · rintro ⟨row, here, own⟩
      obtain ⟨k, stored⟩ := Table.mem_rows_iff.mp row
      have same : m.id = k := keyed k m stored
      exact ⟨same ▸ stored, here, own, admitsChannel_iff.mp parent⟩
    · rintro ⟨stored, here, own, -⟩
      exact ⟨Table.mem_rows_iff.mpr ⟨m.id, stored⟩, here, own⟩
  · next parent =>
    constructor
    · rintro ⟨⟩
    · intro h
      exact absurd (admitsChannel_iff.mpr h.above) parent

theorem admitted_decreasing (v : Visibility) (channel : Ident) :
    (t.admitted v channel).Pairwise fun m n => n.id < m.id := by
  rw [admitted]
  split
  · rw [List.pairwise_reverse]
    exact keyed.pairwise_rows.filter _
  · exact List.Pairwise.nil

theorem mem_admittedBelow_iff {before : Option Ident} {m : Message} :
    m ∈ t.admittedBelow v channel before ↔ t.Admits v channel m ∧ m.id < before.getD .greatest := by
  rw [admittedBelow, List.mem_filter, mem_admitted_iff keyed, decide_eq_true_eq]

theorem admittedBelow_decreasing (v : Visibility) (channel : Ident) (before : Option Ident) :
    (t.admittedBelow v channel before).Pairwise fun m n => n.id < m.id :=
  (admitted_decreasing keyed v channel).filter _

theorem admittedBelow_eq (v : Visibility) (channel : Ident) (before : Option Ident) :
    t.admittedBelow v channel before =
      if t.admitsChannel v channel then
        (t.messages.below (before.getD .greatest)).filter
          (fun m => decide (m.channel = channel) && v.admits m.deleted)
      else [] := by
  rw [admittedBelow, admitted]
  split
  · rw [keyed.below_eq, ← List.filter_reverse, ← List.filter_reverse, List.filter_filter, List.filter_filter]
    apply List.filter_congr
    intro m _
    exact Bool.and_comm ..
  · rfl

theorem messagesIn_eq (v : Visibility) (channel : Ident) (before : Option Ident) (limit : Int) :
    t.messagesIn v channel before limit = (t.admittedBelow v channel before).take limit.toNat := by
  rw [messagesIn_eq_take, admittedBelow_eq keyed]

end Listing

/-- What comes after a beginning of a list in falling order is what is below the last of it. -/
theorem filter_below_last {l : List Message} (decreasing : l.Pairwise fun m n => n.id < m.id) {n : Nat}
    {last : Message} (found : (l.take n).getLast? = some last) :
    l.filter (fun m => m.id < last.id) = l.drop n := by
  obtain ⟨front, split⟩ := List.getLast?_eq_some_iff.mp found
  rw [← List.take_append_drop n l, List.pairwise_append] at decreasing
  obtain ⟨first, -, apart⟩ := decreasing
  have taken : (l.take n).filter (fun m => m.id < last.id) = [] := by
    rw [split] at first ⊢
    apply List.filter_eq_nil_iff.mpr
    intro m mem below
    have lower : m.id.toInt < last.id.toInt := of_decide_eq_true below
    rcases List.mem_append.mp mem with earlier | here
    · have higher : last.id.toInt < m.id.toInt := (List.pairwise_append.mp first).2.2 m earlier last (by simp)
      omega
    · cases List.mem_singleton.mp here
      omega
  have left : (l.drop n).filter (fun m => m.id < last.id) = l.drop n := by
    apply List.filter_eq_self.mpr
    intro m mem
    exact decide_eq_true (apart last (by simp [split]) m mem)
  calc l.filter (fun m => m.id < last.id)
      _ = (l.take n ++ l.drop n).filter (fun m => m.id < last.id) := by rw [List.take_append_drop]
      _ = l.drop n := by rw [List.filter_append, taken, left, List.nil_append]

theorem admittedBelow_some {before : Option Ident} {cursor : Ident} (lower : cursor < before.getD .greatest) :
    t.admittedBelow v channel (some cursor) = (t.admittedBelow v channel before).filter fun m => m.id < cursor := by
  rw [admittedBelow, admittedBelow, List.filter_filter]
  apply List.filter_congr
  intro m _
  by_cases below : m.id < cursor
  · have both : m.id < before.getD .greatest := Int.lt_trans below lower
    simp [below, both]
  · simp [below]

theorem admittedBelow_last (keyed : t.messages.KeyedBy Message.id) {before : Option Ident} {n : Nat}
    {last : Message} (found : ((t.admittedBelow v channel before).take n).getLast? = some last) :
    t.admittedBelow v channel (some last.id) = (t.admittedBelow v channel before).drop n := by
  have listed : last ∈ t.admittedBelow v channel before := List.mem_of_mem_take (List.mem_of_getLast? found)
  rw [admittedBelow_some ((mem_admittedBelow_iff keyed).mp listed).2]
  exact filter_below_last (admittedBelow_decreasing keyed v channel before) found

/-- Reading page by page: each page is fetched below the last message of the page before it, until one is empty. -/
inductive Walk (t : Tables) (v : Visibility) (channel : Ident) (limit : Int) :
    Option Ident → List (List Message) → Prop
  | stop {before} (nothing : t.messagesIn v channel before limit = []) : Walk t v channel limit before []
  | turn {before page last pages} (fetched : t.messagesIn v channel before limit = page)
      (cursor : page.getLast? = some last) (rest : Walk t v channel limit (some last.id) pages) :
      Walk t v channel limit before (page :: pages)

section Walks

variable (keyed : t.messages.KeyedBy Message.id) {before : Option Ident} {limit : Int} {pages : List (List Message)}
include keyed

theorem Walk.flatten_eq (walk : Walk t v channel limit before pages) (positive : 1 ≤ limit) :
    pages.flatten = t.admittedBelow v channel before := by
  induction walk with
  | stop nothing =>
    rw [messagesIn_eq keyed, List.take_eq_nil_iff] at nothing
    rw [List.flatten_nil, nothing.resolve_left (by omega)]
  | turn fetched cursor _ ih =>
    rw [messagesIn_eq keyed] at fetched
    subst fetched
    rw [List.flatten_cons, ih, admittedBelow_last keyed cursor, List.take_append_drop]

/-- With every page fewer messages are left. -/
theorem exists_walk (positive : 1 ≤ limit) (v : Visibility) (channel : Ident) (before : Option Ident) :
    ∃ pages, Walk t v channel limit before pages := by
  induction left : (t.admittedBelow v channel before).length using Nat.strongRecOn generalizing before with
  | ind size ih =>
    subst left
    cases cursor : (t.messagesIn v channel before limit).getLast? with
    | none => exact ⟨[], .stop (List.getLast?_eq_none_iff.mp cursor)⟩
    | some last =>
      have page := messagesIn_eq keyed v channel before limit
      have rest := admittedBelow_last keyed (page ▸ cursor)
      have shown : 0 < (t.admittedBelow v channel before).length :=
        List.length_pos_of_mem (List.mem_of_mem_take (page ▸ List.mem_of_getLast? cursor))
      have fewer : (t.admittedBelow v channel (some last.id)).length < (t.admittedBelow v channel before).length := by
        rw [rest, List.length_drop]
        omega
      obtain ⟨pages, walk⟩ := ih _ fewer (some last.id) rfl
      exact ⟨_, .turn rfl cursor walk⟩

/-- Whatever the visibility admits of a channel below a cursor, in falling order, is what the walks along the
cursors show, and each walk with pages of a message or more ends. A page has at most as many messages as are
asked for, and fewer only if it shows all that is left. -/
theorem walks_show_all (v : Visibility) (channel : Ident) (start : Option Ident) :
    (∃ listing : List Message,
      (∀ m, m ∈ listing ↔ t.Admits v channel m ∧ m.id < start.getD .greatest) ∧
      listing.Pairwise (fun m n => n.id < m.id) ∧
      ∀ limit, 1 ≤ limit → (∃ pages, Walk t v channel limit start pages) ∧
        ∀ pages, Walk t v channel limit start pages → pages.flatten = listing) ∧
    ∀ before limit,
      (t.messagesIn v channel before limit).length ≤ limit.toNat ∧
      ((t.messagesIn v channel before limit).length < limit.toNat →
        ∀ m, t.Admits v channel m → m.id < before.getD .greatest → m ∈ t.messagesIn v channel before limit) ∧
      (limit ≤ 0 → t.messagesIn v channel before limit = []) := by
  constructor
  · refine ⟨t.admittedBelow v channel start, fun m => mem_admittedBelow_iff keyed,
      admittedBelow_decreasing keyed v channel start, fun limit positive => ?_⟩
    exact ⟨exists_walk keyed positive v channel start, fun pages walk => walk.flatten_eq keyed positive⟩
  · intro before limit
    rw [messagesIn_eq keyed]
    refine ⟨List.length_take_le .., ?_, ?_⟩
    · intro short m admits below
      rw [List.length_take] at short
      rw [List.take_of_length_le (by omega)]
      exact (mem_admittedBelow_iff keyed).mpr ⟨admits, below⟩
    · intro none_asked
      rw [Int.toNat_of_nonpos none_asked, List.take_zero]

end Walks

/-- Between the messages of channel 3 stand a deleted one and messages of channel 4, and 9 is the cursor. Whoever
reads one message at a time comes across 5 and -7, and so does everybody else. -/
theorem walks_show_all_of_two :
    let post (id channel : Ident) : Message := ⟨id, channel, ⟨1⟩, "hello", false, .ofMillis 0, .ofMillis 0⟩
    let gone : Message := { post ⟨2⟩ ⟨3⟩ with deleted := true, updatedAt := .ofMillis 1 }
    ∃ t : Tables, t.Built ∧
      t.messages.rows = [post ⟨-7⟩ ⟨3⟩, post ⟨-1⟩ ⟨4⟩, gone, post ⟨5⟩ ⟨3⟩, post ⟨6⟩ ⟨4⟩, post ⟨9⟩ ⟨3⟩] ∧
      Walk t .live ⟨3⟩ 1 (some ⟨9⟩) [[post ⟨5⟩ ⟨3⟩], [post ⟨-7⟩ ⟨3⟩]] ∧
      ∀ limit, 1 ≤ limit → (∃ pages, Walk t .live ⟨3⟩ limit (some ⟨9⟩) pages) ∧
        ∀ pages, Walk t .live ⟨3⟩ limit (some ⟨9⟩) pages → pages.flatten = [post ⟨5⟩ ⟨3⟩, post ⟨-7⟩ ⟨3⟩] := by
  intro post gone
  have built := Built.empty
    |>.change (.insertUser (x := ⟨⟨1⟩, "ann", "", false, .ofMillis 0⟩) rfl)
    |>.change (.insertSpace (s := ⟨⟨2⟩, "home", "", ⟨1⟩, false, .ofMillis 0, .ofMillis 0⟩) rfl)
    |>.change (.insertChannel (c := ⟨⟨3⟩, ⟨2⟩, "news", false, .ofMillis 0, .ofMillis 0⟩) rfl)
    |>.change (.insertChannel (c := ⟨⟨4⟩, ⟨2⟩, "talk", false, .ofMillis 0, .ofMillis 0⟩) rfl)
    |>.change (.insertMessage (m := post ⟨5⟩ ⟨3⟩) rfl)
    |>.change (.insertMessage (m := post ⟨9⟩ ⟨3⟩) rfl)
    |>.change (.insertMessage (m := post ⟨-1⟩ ⟨4⟩) rfl)
    |>.change (.insertMessage (m := post ⟨2⟩ ⟨3⟩) rfl)
    |>.change (.insertMessage (m := post ⟨6⟩ ⟨4⟩) rfl)
    |>.change (.insertMessage (m := post ⟨-7⟩ ⟨3⟩) rfl)
    |>.change (@Change.deleteMessage _ ⟨2⟩ (.ofMillis 1) _ rfl)
  obtain ⟨t, built, rows, walk⟩ : ∃ t : Tables, t.Built ∧
      t.messages.rows = [post ⟨-7⟩ ⟨3⟩, post ⟨-1⟩ ⟨4⟩, gone, post ⟨5⟩ ⟨3⟩, post ⟨6⟩ ⟨4⟩, post ⟨9⟩ ⟨3⟩] ∧
      Walk t .live ⟨3⟩ 1 (some ⟨9⟩) [[post ⟨5⟩ ⟨3⟩], [post ⟨-7⟩ ⟨3⟩]] :=
    ⟨_, built, by decide, .turn (by decide) rfl (.turn (by decide) rfl (.stop (by decide)))⟩
  obtain ⟨⟨listing, -, -, shown⟩, -⟩ := walks_show_all built.keyed.messages .live ⟨3⟩ (some ⟨9⟩)
  have all : [post ⟨5⟩ ⟨3⟩, post ⟨-7⟩ ⟨3⟩] = listing := (shown 1 (by decide)).2 _ walk
  exact ⟨t, built, rows, walk, all ▸ shown⟩

/-- Without a cursor a page shows the latest messages but for one with the greatest identifier. So it shows the
latest messages exactly if the visibility admits none that has it. -/
theorem first_page_passes_over_greatest (keyed : t.messages.KeyedBy Message.id) (v : Visibility) (channel : Ident) :
    ∃ listing : List Message,
      (∀ m, m ∈ listing ↔ t.Admits v channel m) ∧ listing.Pairwise (fun m n => n.id < m.id) ∧
      ∀ limit,
        t.messagesIn v channel none limit = (listing.filter fun m => m.id ≠ .greatest).take limit.toNat ∧
        (1 ≤ limit → (t.messagesIn v channel none limit = listing.take limit.toNat ↔
          ∀ m, t.Admits v channel m → m.id ≠ .greatest)) := by
  have decreasing := admitted_decreasing keyed v channel
  have page (limit : Int) : t.messagesIn v channel none limit =
      ((t.admitted v channel).filter fun m => m.id ≠ .greatest).take limit.toNat := by
    rw [messagesIn_eq keyed, admittedBelow]
    congr 2
    funext m
    rw [Option.getD_none, decide_eq_decide, Ident.lt_greatest_iff]
  refine ⟨t.admitted v channel, fun m => mem_admitted_iff keyed, decreasing, fun limit => ⟨page limit, ?_⟩⟩
  intro positive
  rw [page]
  constructor
  · intro latest m admits greatest
    have listed : m ∈ t.admitted v channel := (mem_admitted_iff keyed).mpr admits
    cases shape : t.admitted v channel with
    | nil =>
      rw [shape] at listed
      cases listed
    | cons head rest =>
      rw [shape] at listed latest decreasing
      have first : head.id = .greatest := by
        rcases List.mem_cons.mp listed with rfl | later
        · exact greatest
        · have higher : m.id < head.id := (List.pairwise_cons.mp decreasing).1 m later
          have top : head.id.toInt ≤ m.id.toInt := greatest ▸ head.id.toInt_le
          exact absurd higher (Int.not_lt.mpr top)
      have asked : limit.toNat = limit.toNat - 1 + 1 := by omega
      have shown : head ∈ (head :: rest).take limit.toNat := by
        rw [asked, List.take_succ_cons]
        exact List.mem_cons_self ..
      rw [← latest] at shown
      exact absurd first (of_decide_eq_true (List.mem_filter.mp (List.mem_of_mem_take shown)).2)
  · intro none_greatest
    rw [List.filter_eq_self.mpr]
    intro m mem
    exact decide_eq_true (none_greatest m ((mem_admitted_iff keyed).mp mem))

/-- Message 4 and the message with the greatest identifier are both in channel 3. A first page with room for one
message shows 4. -/
theorem first_page_passes_over_greatest_posted :
    let post (id : Ident) : Message := ⟨id, ⟨3⟩, ⟨1⟩, "hello", false, .ofMillis 0, .ofMillis 0⟩
    ∃ t : Tables, t.Built ∧ t.Admits .live ⟨3⟩ (post ⟨4⟩) ∧ t.Admits .live ⟨3⟩ (post .greatest) ∧
      t.messagesIn .live ⟨3⟩ none 1 = [post ⟨4⟩] ∧
      ∃ listing : List Message, (∀ m, m ∈ listing ↔ t.Admits .live ⟨3⟩ m) ∧
        listing.Pairwise (fun m n => n.id < m.id) ∧ t.messagesIn .live ⟨3⟩ none 1 ≠ listing.take 1 := by
  intro post
  have built := Built.empty
    |>.change (.insertUser (x := ⟨⟨1⟩, "ann", "", false, .ofMillis 0⟩) rfl)
    |>.change (.insertSpace (s := ⟨⟨2⟩, "home", "", ⟨1⟩, false, .ofMillis 0, .ofMillis 0⟩) rfl)
    |>.change (.insertChannel (c := ⟨⟨3⟩, ⟨2⟩, "news", false, .ofMillis 0, .ofMillis 0⟩) rfl)
    |>.change (.insertMessage (m := post ⟨4⟩) rfl)
    |>.change (.insertMessage (m := post .greatest) rfl)
  obtain ⟨t, built, four, last, page⟩ : ∃ t : Tables, t.Built ∧ t.Admits .live ⟨3⟩ (post ⟨4⟩) ∧
      t.Admits .live ⟨3⟩ (post .greatest) ∧ t.messagesIn .live ⟨3⟩ none 1 = [post ⟨4⟩] :=
    ⟨_, built, ⟨by decide, rfl, rfl, _, _, rfl, rfl, rfl, rfl⟩,
      ⟨by decide, rfl, rfl, _, _, rfl, rfl, rfl, rfl⟩, by decide⟩
  obtain ⟨listing, all, decreasing, pages⟩ :=
    first_page_passes_over_greatest built.keyed.messages .live ⟨3⟩
  refine ⟨t, built, four, last, page, listing, all, decreasing, ?_⟩
  intro latest
  exact ((pages 1).2 (by decide)).mp latest _ last rfl

structure SameBelow (b : Ident) (t u : Tables) : Prop where
  spaces : u.spaces = t.spaces
  channels : u.channels = t.channels
  messages : u.messages.below b = t.messages.below b

namespace SameBelow

variable {t u v : Tables} {b : Ident}

theorem refl (b : Ident) (t : Tables) : SameBelow b t t := ⟨rfl, rfl, rfl⟩

theorem trans (first : SameBelow b t u) (second : SameBelow b u v) : SameBelow b t v where
  spaces := second.spaces.trans first.spaces
  channels := second.channels.trans first.channels
  messages := second.messages.trans first.messages

theorem channelInSpace? (same : SameBelow b t u) (vis : Visibility) (id : Ident) :
    u.channelInSpace? vis id = t.channelInSpace? vis id := by
  simp only [Tables.channelInSpace?, channel?, same.channels, same.spaces]

theorem messagesIn (same : SameBelow b t u) (vis : Visibility) (channel : Ident) (limit : Int) :
    u.messagesIn vis channel (some b) limit = t.messagesIn vis channel (some b) limit := by
  have admits : u.admitsChannel vis channel = t.admitsChannel vis channel := by
    simp only [admitsChannel, channel?, space?, same.channels, same.spaces]
  rw [Tables.messagesIn, Tables.messagesIn, admits, Option.getD_some, same.messages]

end SameBelow

end ChatSpaces.Tables
