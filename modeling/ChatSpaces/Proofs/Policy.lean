import ChatSpaces.Policy
import Mathlib.Data.List.Destutter
import Mathlib.Data.List.Sort

/-!
# Policies as sets of kinds

The list of a policy is in strict order of the names, so it is the only such list of its kinds, and two policies that
deny the same kinds are one. The same list is made in two steps: kinds that are sorted by name stand next to their
repetitions, since no two kinds share a name, and when of equal neighbours only the first is kept the order is strict.
-/

namespace ChatSpaces

namespace Restraint.Kind

theorem name_inj {k l : Kind} : k.name = l.name ↔ k = l := by cases k <;> cases l <;> decide

theorem name_lt_of_le_of_ne {k l : Kind} (le : k.name ≤ l.name) (ne : k ≠ l) : k.name < l.name :=
  Std.lt_of_le_of_ne le (mt name_inj.mp ne)

end Restraint.Kind

namespace Policy

open Restraint (Kind)

variable {k : Kind} {ks ls : List Kind}

def Ordered (ks : List Kind) : Prop := ks.Pairwise fun k l => k.name < l.name

namespace Ordered

theorem nodup (h : Ordered ks) : ks.Nodup := by
  refine h.imp ?_
  rintro k l before rfl
  exact String.lt_irrefl _ before

theorem eq_of_mem_iff (hk : Ordered ks) (hl : Ordered ls) (same : ∀ k, k ∈ ks ↔ k ∈ ls) : ks = ls := by
  have irrefl : Std.Irrefl fun k l : Kind => k.name < l.name := ⟨fun k => String.lt_irrefl k.name⟩
  have antisymm : Std.Antisymm fun k l : Kind => k.name < l.name := ⟨fun _ _ lt gt => absurd lt (String.lt_asymm gt)⟩
  exact List.Pairwise.eq_of_mem_iff hk hl same

theorem insertKind (h : Ordered ks) (k : Kind) : Ordered (insertKind k ks) := by
  induction ks with
  | nil => exact List.pairwise_singleton _ k
  | cons l ls ih =>
    obtain ⟨first, rest⟩ := List.pairwise_cons.mp h
    unfold Policy.insertKind
    split
    · exact h
    · next other =>
      split
      · next before =>
        have lower : k.name < l.name := (Kind.rank_lt_iff k l).mp before
        refine List.pairwise_cons.mpr ⟨?_, h⟩
        exact List.forall_mem_cons.mpr ⟨lower, fun m mem => String.lt_trans lower (first m mem)⟩
      · next after =>
        have higher : l.rank < k.rank := by
          have apart : k.rank ≠ l.rank := mt Kind.rank_inj.mp other
          omega
        refine List.pairwise_cons.mpr ⟨fun m mem => ?_, ih rest⟩
        rcases mem_insertKind.mp mem with rfl | mem
        · exact (Kind.rank_lt_iff l m).mp higher
        · exact first m mem

end Ordered

theorem ordered_ofKinds (ks : List Kind) : Ordered (ofKinds ks).denying := by
  induction ks with
  | nil => exact List.Pairwise.nil
  | cons k ks ih => exact ih.insertKind k

theorem ofKinds_eq_iff : ofKinds ks = ofKinds ls ↔ ∀ k, k ∈ ks ↔ k ∈ ls := by
  constructor
  · intro same k
    rw [← mem_ofKinds, same, mem_ofKinds]
  · intro same
    have list : (ofKinds ks).denying = (ofKinds ls).denying := by
      refine (ordered_ofKinds ks).eq_of_mem_iff (ordered_ofKinds ls) fun k => ?_
      rw [mem_ofKinds, mem_ofKinds, same]
    exact congrArg Policy.mk list

/-- Sorted by name, equal kinds in the order in which they came. -/
def sorted (ks : List Kind) : List Kind := ks.mergeSort fun k l => decide (k.name ≤ l.name)

theorem pairwise_sorted (ks : List Kind) : (sorted ks).Pairwise fun k l => k.name ≤ l.name := by
  have : Std.Total fun k l : Kind => k.name ≤ l.name := ⟨fun k l => String.le_total k.name l.name⟩
  have : IsTrans Kind fun k l => k.name ≤ l.name := ⟨fun _ _ _ => String.le_trans⟩
  exact List.pairwise_mergeSort' _ ks

theorem mem_destutter_iff : k ∈ ks.destutter (· ≠ ·) ↔ k ∈ ks := by
  have from_first (l : Kind) (ks : List Kind) : k ∈ ks.destutter' (· ≠ ·) l ↔ k ∈ l :: ks := by
    induction ks generalizing l with
    | nil => rfl
    | cons m ks ih =>
      by_cases apart : l ≠ m
      · rw [List.destutter'_cons_pos _ apart, List.mem_cons, List.mem_cons, ih]
      · rw [List.destutter'_cons_neg _ apart, ih, not_not.mp apart, List.mem_cons, List.mem_cons (l := m :: ks),
          List.mem_cons, or_self_left]
  cases ks with
  | nil => rfl
  | cons l ks => exact from_first l ks

theorem Ordered.of_isChain (ascending : ks.Pairwise fun k l => k.name ≤ l.name) (apart : ks.IsChain (· ≠ ·)) :
    Ordered ks := by
  induction ks with
  | nil => exact List.Pairwise.nil
  | cons k ks ih =>
    obtain ⟨first, rest⟩ := List.pairwise_cons.mp ascending
    refine List.pairwise_cons.mpr ⟨fun m mem => ?_, ih rest apart.tail⟩
    cases ks with
    | nil => cases mem
    | cons l ls =>
      have next : k.name < l.name :=
        Kind.name_lt_of_le_of_ne (first l List.mem_cons_self) (List.isChain_cons_cons.mp apart).1
      rcases List.mem_cons.mp mem with rfl | mem
      · exact next
      · exact Std.lt_of_lt_of_le next ((List.pairwise_cons.mp rest).1 m mem)

/-- The list of a policy is what sorting by name and leaving out what equals its neighbour make of the kinds. -/
theorem denying_ofKinds (ks : List Kind) : (ofKinds ks).denying = (sorted ks).destutter (· ≠ ·) := by
  have ordered : Ordered ((sorted ks).destutter (· ≠ ·)) :=
    .of_isChain ((pairwise_sorted ks).sublist (List.destutter_sublist _ _)) (List.isChain_destutter _ _)
  refine (ordered_ofKinds ks).eq_of_mem_iff ordered fun k => ?_
  rw [mem_ofKinds, mem_destutter_iff, sorted, List.mem_mergeSort]

/-- For any two lists of kinds, however long and with whatever repetitions: a policy is made of a list by sorting it by
name and leaving out what equals its neighbour. It denies just the kinds in the list, and its own list names each of them
once, in strict order of the names. Two lists make the same policy just if they hold the same kinds, and the list of a
policy makes that policy again. -/
theorem ofKinds_is_canonical (ks ls : List Kind) :
    (ofKinds ks).denying = (sorted ks).destutter (· ≠ ·) ∧
    (∀ k, (ofKinds ks).denies k = true ↔ k ∈ ks) ∧
    (ofKinds ks).denying.Nodup ∧
    (ofKinds ks).denying.Pairwise (fun k l => k.name < l.name) ∧
    (ofKinds ks = ofKinds ls ↔ ∀ k, k ∈ ks ↔ k ∈ ls) ∧
    ofKinds (ofKinds ks).denying = ofKinds ks := by
  have ordered := ordered_ofKinds ks
  exact ⟨denying_ofKinds ks, fun k => denies_ofKinds k ks, ordered.nodup, ordered, ofKinds_eq_iff,
    ofKinds_eq_iff.mpr fun k => mem_ofKinds⟩

example : ofKinds [.timeout, .ban, .timeout, .mute, .ban] = ⟨[.ban, .mute, .timeout]⟩ := by decide

end Policy

end ChatSpaces
