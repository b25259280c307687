import ChatSpaces.Text.Blank
import ChatSpaces.Text.Case
import Mathlib.Data.List.Basic

/-!
# Words among blanks

Trimming takes a text apart into a blank beginning, a middle and a blank end. A word is a text without any blanks, and
it is what is left of a text exactly if there are only blanks around it. The case of letters has nothing to do with it.
-/

namespace ChatSpaces.Text

variable {s w : String} {cs before word after : List Char}

def IsWord (s : String) : Prop := ∀ c ∈ s.toList, isBlank c = false

instance (s : String) : Decidable (IsWord s) := List.decidableBAll (fun c => isBlank c = false) s.toList

theorem exists_trimStart (cs : List Char) : ∃ before, before.all isBlank = true ∧ cs = before ++ trimStart cs :=
  ⟨cs.takeWhile isBlank, List.all_takeWhile, List.takeWhile_append_dropWhile.symm⟩

theorem exists_trimChars (cs : List Char) : ∃ before after,
    before.all isBlank = true ∧ after.all isBlank = true ∧ cs = before ++ trimChars cs ++ after := by
  obtain ⟨before, blank, whole⟩ := exists_trimStart cs
  obtain ⟨after, blank', rest⟩ := exists_trimStart (trimStart cs).reverse
  refine ⟨before, after.reverse, blank, by rwa [List.all_reverse], ?_⟩
  calc cs = before ++ (trimStart cs).reverse.reverse := by rw [List.reverse_reverse, ← whole]
    _ = before ++ (after ++ trimStart (trimStart cs).reverse).reverse := by rw [← rest]
    _ = before ++ trimChars cs ++ after.reverse := by rw [List.reverse_append, trimChars, List.append_assoc]

theorem trimStart_append (blank : before.all isBlank = true) (cs : List Char) :
    trimStart (before ++ cs) = trimStart cs :=
  List.dropWhile_append_of_pos (List.all_eq_true.mp blank)

theorem trimStart_of_head {c : Char} (solid : isBlank c = false) (cs : List Char) : trimStart (c :: cs) = c :: cs :=
  List.dropWhile_cons_of_neg (by rw [solid]; exact Bool.false_ne_true)

theorem trimChars_append (blank : before.all isBlank = true) (blank' : after.all isBlank = true)
    (solid : ∀ c ∈ word, isBlank c = false) : trimChars (before ++ word ++ after) = word := by
  have after_blanks : trimStart (before ++ word ++ after) = trimStart (word ++ after) := by
    rw [List.append_assoc, trimStart_append blank]
  rcases List.eq_nil_or_concat' word with rfl | ⟨front, last, rfl⟩
  · rw [trimChars_eq_nil_iff, List.all_append, List.all_append, blank, blank']
    rfl
  · have start : trimStart (front ++ [last] ++ after) = front ++ [last] ++ after := by
      cases front with
      | nil => exact trimStart_of_head (solid last (by simp)) after
      | cons c front => exact trimStart_of_head (solid c (by simp)) _
    have stop : trimStart (front ++ [last] ++ after).reverse = (front ++ [last]).reverse := by
      rw [List.reverse_append, trimStart_append (by rwa [List.all_reverse]), List.reverse_append]
      exact trimStart_of_head (solid last (by simp)) _
    rw [trimChars, after_blanks, start, stop, List.reverse_reverse]

theorem exists_trim (s : String) : ∃ before after,
    IsBlankText before ∧ IsBlankText after ∧ s = before ++ trim s ++ after := by
  obtain ⟨before, after, blank, blank', whole⟩ := exists_trimChars s.toList
  refine ⟨.ofList before, .ofList after, ?_, ?_, ?_⟩
  · rwa [IsBlankText, String.toList_ofList]
  · rwa [IsBlankText, String.toList_ofList]
  · rw [← String.toList_inj, String.toList_append, String.toList_append, String.toList_ofList, String.toList_ofList,
      trim, String.toList_ofList, ← whole]

/-- A word is what trimming leaves exactly if there are only blanks around it. -/
theorem trim_eq_iff (solid : IsWord w) :
    trim s = w ↔ ∃ before after, IsBlankText before ∧ IsBlankText after ∧ s = before ++ w ++ after := by
  constructor
  · rintro rfl
    exact exists_trim s
  · rintro ⟨before, after, blank, blank', rfl⟩
    rw [trim, String.toList_append, String.toList_append, trimChars_append blank blank' solid, String.ofList_toList]

theorem isBlank_of_printable {c : Char} (low : 0x21 ≤ c.toNat) (high : c.toNat ≤ 0x7E) : isBlank c = false := by
  simp only [isBlank, blankRanges, List.any_cons, List.any_nil, Bool.or_false, Bool.or_eq_false_iff,
    Bool.and_eq_false_imp, decide_eq_true_eq, decide_eq_false_iff_not]
  omega

theorem isBlank_toLower (c : Char) : isBlank c.toLower = isBlank c := by
  unfold Char.toLower
  split
  · next upper =>
    have low : 65 ≤ c.toNat := UInt32.le_iff_toNat_le.mp upper.1
    have high : c.toNat ≤ 90 := UInt32.le_iff_toNat_le.mp upper.2
    have lowered : (c.val + ('a'.val - 'A'.val)).toNat = c.toNat + 32 := by
      change (c.toNat + 32) % 2 ^ 32 = c.toNat + 32
      omega
    rw [isBlank_of_printable (c := c) (by omega) (by omega)]
    apply isBlank_of_printable
    · rw [Char.toNat, lowered]
      omega
    · rw [Char.toNat, lowered]
      omega
  · rfl

theorem isWord_lower_iff : IsWord (lower s) ↔ IsWord s := by
  rw [IsWord, lower, String.toList_ofList, List.forall_mem_map]
  simp only [isBlank_toLower]
  exact Iff.rfl

end ChatSpaces.Text
