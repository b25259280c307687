import ChatSpaces.Text.Decimal
import Mathlib.Data.List.Basic
import Mathlib.Data.List.Induction

/-!
# Spellings of whole numbers

A number has many spellings: it may start with zeros, and with a plus if it is not negative. What is read is what is
spelled, and what is written is the one spelling that has nothing to spare.
-/

namespace ChatSpaces.Text

/-- One or more ASCII digits and the natural number that they denote. -/
structure Denotes (ds : List Char) (n : Nat) : Prop where
  nonempty : ds ≠ []
  digits : ∀ c ∈ ds, c.isDigit = true
  value : Nat.ofDigitChars 10 ds 0 = n

/-- The characters are digits, behind at most one sign, and denote the number. -/
inductive Spells : Int → List Char → Prop
  | plain {n : Nat} {ds} (digits : Denotes ds n) : Spells n ds
  | plus {n : Nat} {ds} (digits : Denotes ds n) : Spells n ('+' :: ds)
  | minus {n : Nat} {ds} (digits : Denotes ds n) : Spells (-n) ('-' :: ds)

/-- A spelling without a plus, a zero before other digits, or a minus before zero. -/
inductive Canonical : Int → List Char → Prop
  | plain {n : Nat} {ds} (digits : Denotes ds n) (lead : ds.head? = some '0' → ds = ['0']) : Canonical n ds
  | minus {n : Nat} {ds} (digits : Denotes ds n) (lead : ds.head? ≠ some '0') : Canonical (-n) ('-' :: ds)

variable {ds cs : List Char} {n m : Nat} {z low high : Int}

theorem Canonical.spells (h : Canonical z cs) : Spells z cs := by
  cases h with
  | plain digits => exact .plain digits
  | minus digits => exact .minus digits

theorem digits?_eq_some_iff_denotes : digits? ds = some n ↔ Denotes ds n := by
  rw [digits?_eq_some_iff, List.all_eq_true]
  exact ⟨fun h => ⟨h.1.1, h.1.2, h.2⟩, fun h => ⟨⟨h.nonempty, h.digits⟩, h.value⟩⟩

theorem Denotes.plain (h : Denotes ds n) : signed? ds = some (n : Int) := by
  have read := digits?_eq_some_iff_denotes.mpr h
  unfold signed?
  split
  · exact absurd (h.digits '-' (.head _)) (by decide)
  · exact absurd (h.digits '+' (.head _)) (by decide)
  · rw [read]
    rfl

/-- A sign is no digit, so a text can be read in one way only. -/
theorem signed?_eq_some_iff : signed? cs = some z ↔ Spells z cs := by
  constructor
  · intro h
    unfold signed? at h
    split at h
    case h_1 ds =>
      cases read : digits? ds <;> rw [read] at h <;> cases h
      exact .minus (digits?_eq_some_iff_denotes.mp read)
    case h_2 ds =>
      cases read : digits? ds <;> rw [read] at h <;> cases h
      exact .plus (digits?_eq_some_iff_denotes.mp read)
    case h_3 =>
      cases read : digits? cs <;> rw [read] at h <;> cases h
      exact .plain (digits?_eq_some_iff_denotes.mp read)
  · intro h
    cases h with
    | plain digits => exact digits.plain
    | plus digits =>
      rw [signed?_plus, digits?_eq_some_iff_denotes.mpr digits]
      rfl
    | minus digits =>
      rw [signed?_minus, digits?_eq_some_iff_denotes.mpr digits]
      rfl

theorem intWithin?_eq_some_iff {s : String} :
    intWithin? low high s = some z ↔ Spells z s.toList ∧ low ≤ z ∧ z ≤ high := by
  rw [intWithin?, Option.filter_eq_some_iff, signed?_eq_some_iff, decide_eq_true_eq]

theorem denotes_toDigits (n : Nat) : Denotes (Nat.toDigits 10 n) n :=
  ⟨Nat.toDigits_ne_nil, fun _ => Nat.isDigit_of_mem_toDigits (by decide) (by decide), Nat.ofDigitChars_ten_toDigits⟩

theorem exists_digitChar {c : Char} (digit : c.isDigit = true) : ∃ k < 10, c = Nat.digitChar k := by
  obtain ⟨low, high⟩ := Char.isDigit_iff_toNat.mp digit
  have low : 48 ≤ c.toNat := low
  have high : c.toNat ≤ 57 := high
  refine ⟨c.toNat - 48, by omega, Char.toNat_inj.mp ?_⟩
  rw [Nat.toNat_digitChar_of_lt_ten (by omega)]
  omega

theorem Denotes.toDigits (h : Denotes ds n) (lead : ds.head? = some '0' → ds = ['0']) : Nat.toDigits 10 n = ds := by
  obtain ⟨nonempty, digits, rfl⟩ := h
  -- From the last digit: the digits before it have no leading zero either, so they denote a positive number.
  induction ds using List.reverseRecOn with
  | nil => exact absurd rfl nonempty
  | append_singleton ds c ih =>
    obtain ⟨k, small, rfl⟩ := exists_digitChar (digits c (List.mem_append_right _ (.head _)))
    rw [Nat.ofDigitChars_append, Nat.ofDigitChars_cons_digitChar_of_lt_ten small, Nat.ofDigitChars_nil]
    by_cases alone : ds = []
    · subst alone
      rw [Nat.ofDigitChars_nil, Nat.mul_zero, Nat.zero_add, Nat.toDigits_of_lt_base small, List.nil_append]
    · have head : ds.head? ≠ some '0' := by
        intro zero
        have whole := congrArg List.length (lead (by rw [List.head?_append, zero]; rfl))
        have some := List.length_pos_iff.mpr alone
        rw [List.length_append, List.length_singleton, List.length_singleton] at whole
        omega
      have earlier := ih (fun zero => absurd zero head) alone fun c mem => digits c (List.mem_append_left _ mem)
      have positive : 0 < Nat.ofDigitChars 10 ds 0 := by
        rw [Nat.pos_iff_ne_zero]
        intro zero
        rw [← earlier, zero] at head
        exact head rfl
      rw [← Nat.toDigits_append_toDigits (by decide) positive small, earlier, Nat.toDigits_of_lt_base small]

theorem head?_toDigits (positive : 0 < n) : (Nat.toDigits 10 n).head? ≠ some '0' := by
  induction n using Nat.strongRecOn with
  | ind n ih =>
    by_cases small : n < 10
    · rw [Nat.toDigits_of_lt_base small, List.head?_cons, ne_eq, Option.some_inj, Nat.digitChar_eq_zero]
      omega
    · rw [Nat.toDigits_of_base_le (by decide) (by omega), List.head?_append_of_ne_nil _ Nat.toDigits_ne_nil]
      exact ih (n / 10) (by omega) (by omega)

theorem toList_toString_natCast (n : Nat) : (toString (n : Int)).toList = Nat.toDigits 10 n := by
  rw [Int.toString_eq_repr, Int.repr_eq_if, if_pos (Int.natCast_nonneg n), Int.toNat_natCast, Nat.toList_repr]

theorem toList_toString_neg (positive : 0 < n) : (toString (-(n : Int))).toList = '-' :: Nat.toDigits 10 n := by
  rw [Int.toString_eq_repr, Int.repr_eq_if, if_neg (by omega), Int.neg_neg, Int.toNat_natCast, String.toList_append,
    Nat.toList_repr]
  rfl

theorem canonical_iff : Canonical z cs ↔ cs = (toString z).toList := by
  constructor
  · intro h
    cases h with
    | plain digits lead => rw [toList_toString_natCast, digits.toDigits lead]
    | @minus n ds digits lead =>
      have written := digits.toDigits fun zero => absurd zero lead
      have positive : 0 < n := by
        rw [Nat.pos_iff_ne_zero]
        rintro rfl
        rw [← written] at lead
        exact lead rfl
      rw [toList_toString_neg positive, written]
  · rintro rfl
    have zero : Canonical 0 ['0'] := @Canonical.plain 0 ['0'] (denotes_toDigits 0) fun _ => rfl
    obtain ⟨n, rfl | rfl⟩ := Int.eq_nat_or_neg z
    all_goals
      rcases Nat.eq_zero_or_pos n with rfl | positive
    · exact zero
    · rw [toList_toString_natCast]
      exact .plain (denotes_toDigits n) fun zero => absurd zero (head?_toDigits positive)
    · exact zero
    · rw [toList_toString_neg positive]
      exact .minus (denotes_toDigits n) (head?_toDigits positive)

end ChatSpaces.Text
