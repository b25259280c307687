import ChatSpaces.Posting

/-!
# What the posting gate depends on

Time, a milder policy and fewer restraints only ever open the gate. The order of the restraints does not matter to
whether it is open, but to what is reported: the first of those that would be enough to close it.
-/

namespace ChatSpaces.PostingContext

open Time (Instant)

variable {c : PostingContext} {p q : Policy} {r : Restraint} {rs : List Restraint}

def Bars (c : PostingContext) (p : Policy) (r : Restraint) : Prop := p.denies r.kind = true ∧ r.ActiveAt c.now

def BarsFirst (c : PostingContext) (p : Policy) (r : Restraint) : Prop :=
  ∃ before after, c.restraints = before ++ r :: after ∧ c.Bars p r ∧ ∀ x ∈ before, ¬ c.Bars p x

def withRestraints (c : PostingContext) (rs : List Restraint) : PostingContext := { c with restraints := rs }

theorem violation?_withRestraints (c : PostingContext) (p : Policy) (rs : List Restraint) :
    (c.withRestraints rs).violation? p =
      if !c.spaceIsLive then some (.spaceUnavailable c.channel.space)
      else if !c.isMember then some (.notChannelMember c.channel.id)
      else ((c.withRestraints rs).firstDenying? p).map (fun r => .restrained r.scope r.kind r.expiresAt) := rfl

def ofDenied (c : PostingContext) (p : Policy) : PostingContext :=
  c.withRestraints (c.restraints.filter fun r => p.denies r.kind)

theorem bars_iff : c.Bars p r ↔ (p.denies r.kind && decide (r.ActiveAt c.now)) = true := by
  rw [Bars, Bool.and_eq_true, decide_eq_true_eq]

theorem firstActive?_ofDenied (c : PostingContext) (p : Policy) : (c.ofDenied p).firstActive? = c.firstDenying? p := by
  rw [firstActive?, firstDenying?, ofDenied, withRestraints, List.find?_filter]
  congr 1
  funext r
  rw [Bool.eq_iff_iff, decide_eq_true_eq, Bool.and_eq_true]

theorem firstDenying?_eq_some_iff : c.firstDenying? p = some r ↔ c.BarsFirst p r := by
  simp only [firstDenying?, List.find?_eq_some_iff_append, ← bars_iff, Bool.not_eq_true', ← Bool.not_eq_true]
  constructor
  · rintro ⟨bars, before, after, split, passed⟩
    exact ⟨before, after, split, bars, passed⟩
  · rintro ⟨before, after, split, bars, passed⟩
    exact ⟨bars, before, after, split, passed⟩

theorem firstDenying?_eq_none_iff : c.firstDenying? p = none ↔ ∀ r ∈ c.restraints, ¬ c.Bars p r := by
  simp only [firstDenying?, List.find?_eq_none, bars_iff]

/-- What bars later, or under a milder policy, bars before and under the stricter one. -/
theorem Bars.of_milder {now : Instant} (milder : q.denying ⊆ p.denying) (later : c.now ≤ now)
    (bars : { c with now := now }.Bars q r) : c.Bars p r := by
  obtain ⟨denied, active⟩ := bars
  refine ⟨?_, active.of_le later⟩
  rw [Policy.denies, List.contains_iff_mem] at denied ⊢
  exact milder denied

theorem violation?_eq_none_iff_bars :
    c.violation? p = none ↔ c.spaceIsLive = true ∧ c.isMember = true ∧ ∀ r ∈ c.restraints, ¬ c.Bars p r := by
  simp only [violation?_eq_none_iff, Bars, not_and]

theorem violation?_eq_restrained_iff {scope : Scope} {kind : Restraint.Kind} {expiry : Option Instant} :
    c.violation? p = some (.restrained scope kind expiry) ↔ c.spaceIsLive = true ∧ c.isMember = true ∧
      ∃ r, c.BarsFirst p r ∧ r.scope = scope ∧ r.kind = kind ∧ r.expiresAt = expiry := by
  unfold violation?
  cases c.spaceIsLive with
  | false => simp
  | true =>
    cases c.isMember with
    | false => simp
    | true => simp [Option.map_eq_some_iff, firstDenying?_eq_some_iff]

theorem firstDenying?_of_same (same : ∀ r, r ∈ rs ↔ r ∈ c.restraints) :
    (c.withRestraints rs).firstDenying? p = none ↔ c.firstDenying? p = none := by
  simp only [firstDenying?_eq_none_iff, ← same]
  exact Iff.rfl

/-- The gate is the same for another list of the same restraints, or it names another one of them. -/
theorem violation?_of_same (same : ∀ r, r ∈ rs ↔ r ∈ c.restraints) :
    (c.withRestraints rs).violation? p = c.violation? p ∨
      ∃ r r' : Restraint, c.violation? p = some (.restrained r.scope r.kind r.expiresAt) ∧
        (c.withRestraints rs).violation? p = some (.restrained r'.scope r'.kind r'.expiresAt) := by
  rw [violation?_withRestraints, violation?]
  cases c.spaceIsLive with
  | false => exact .inl rfl
  | true =>
    cases c.isMember with
    | false => exact .inl rfl
    | true =>
      cases first : c.firstDenying? p with
      | none =>
        rw [(firstDenying?_of_same same).mpr first]
        exact .inl rfl
      | some r =>
        have barred : (c.withRestraints rs).firstDenying? p ≠ none := by
          rw [ne_eq, firstDenying?_of_same same, first]
          exact nofun
        obtain ⟨r', other⟩ := Option.ne_none_iff_exists'.mp barred
        rw [other]
        exact .inr ⟨r, r', rfl, rfl⟩

/-- For any channel, space, membership and list of restraints: a gate that is open stays open as time goes by, under any
policy that denies no other kinds, and with any list that holds no other restraints, such as a part of the list or the
same in another order. The order and the repetition of the restraints make no difference to whether the gate is open,
only to which of them is reported, and that is always the first one in the list that is of a denied kind and in force:
the first one in force of those of the denied kinds. -/
theorem gate_is_monotone (c : PostingContext) (p : Policy) :
    (c.violation? p = none → ∀ (q : Policy) (now : Instant) (rs : List Restraint),
      q.denying ⊆ p.denying → c.now ≤ now → rs ⊆ c.restraints →
        { c.withRestraints rs with now := now }.violation? q = none) ∧
      (∀ rs : List Restraint, (∀ r, r ∈ rs ↔ r ∈ c.restraints) →
        ((c.withRestraints rs).violation? p = none ↔ c.violation? p = none) ∧
          ((c.withRestraints rs).violation? p = c.violation? p ∨
            ∃ r r' : Restraint, c.violation? p = some (.restrained r.scope r.kind r.expiresAt) ∧
              (c.withRestraints rs).violation? p = some (.restrained r'.scope r'.kind r'.expiresAt))) ∧
      (∀ scope kind expiry, c.violation? p = some (.restrained scope kind expiry) ↔
        c.spaceIsLive = true ∧ c.isMember = true ∧
          ∃ r, c.BarsFirst p r ∧ r.scope = scope ∧ r.kind = kind ∧ r.expiresAt = expiry) ∧
      ∀ r, c.BarsFirst p r ↔ (c.ofDenied p).firstActive? = some r := by
  refine ⟨?_, ?_, fun _ _ _ => violation?_eq_restrained_iff, fun r => ?_⟩
  · intro allowed q now rs milder later fewer
    obtain ⟨live, member, free⟩ := violation?_eq_none_iff_bars.mp allowed
    refine violation?_eq_none_iff_bars.mpr ⟨live, member, fun r mem bars => ?_⟩
    exact free r (fewer mem) (Bars.of_milder milder later bars)
  · intro rs same
    refine ⟨?_, violation?_of_same same⟩
    rw [violation?_eq_none_iff_bars, violation?_eq_none_iff_bars]
    simp only [← same]
    exact Iff.rfl
  · rw [firstActive?_ofDenied, firstDenying?_eq_some_iff]

/-- Mutes and bans deny posting, and 20 seconds after the beginning of 1970 a ban that ended at 10 and a timeout do not
keep the gate closed, in either order, nor do they at 30. A mute until 50 and a ban do: the one that is first in the
list is reported, not the timeout before it. -/
theorem gate_is_monotone_expired :
    let p := Policy.ofKinds [.mute, .ban]
    let restrained (kind : Restraint.Kind) (expiry : Option Instant) : Restraint :=
      ⟨.channel ⟨3⟩, ⟨1⟩, kind, expiry, ⟨9⟩, .ofMillis 0, none⟩
    let ended := restrained .ban (some (.ofMillis 10000))
    let out := restrained .timeout none
    let muted := restrained .mute (some (.ofMillis 50000))
    let banned := restrained .ban none
    let c : PostingContext :=
      ⟨⟨⟨3⟩, ⟨2⟩, "news", false, .ofMillis 0, .ofMillis 0⟩,
        some ⟨⟨2⟩, "home", "", ⟨1⟩, false, .ofMillis 0, .ofMillis 0⟩, true, [ended, out], .ofMillis 20000⟩
    c.violation? p = none ∧
      { c.withRestraints [out, ended] with now := .ofMillis 30000 }.violation? (.ofKinds [.ban]) = none ∧
      (c.withRestraints [out, muted, banned]).violation? p =
        some (.restrained (.channel ⟨3⟩) .mute (some (.ofMillis 50000))) ∧
      (c.withRestraints [out, banned, muted]).violation? p = some (.restrained (.channel ⟨3⟩) .ban none) := by
  intro p restrained ended out muted banned c
  have allowed : c.violation? p = none := by decide
  refine ⟨allowed, (gate_is_monotone c p).1 allowed _ _ _ (by decide) (by decide) (by decide), ?_, ?_⟩
  · refine ((gate_is_monotone _ p).2.2.1 _ _ _).mpr ⟨by decide, by decide, muted, ?_, rfl, rfl, rfl⟩
    exact ((gate_is_monotone _ p).2.2.2 muted).mpr (by decide)
  · refine ((gate_is_monotone _ p).2.2.1 _ _ _).mpr ⟨by decide, by decide, banned, ?_, rfl, rfl, rfl⟩
    exact ((gate_is_monotone _ p).2.2.2 banned).mpr (by decide)

end ChatSpaces.PostingContext
