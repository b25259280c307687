import ChatSpaces.Proofs.Text.Blank
import ChatSpaces.Restraint

/-!
# Names of restraint kinds

A kind is spelled by its name, with blanks around it and letters of either case, and by nothing else. Reading a text
answers the kind that it spells, or the text without the blanks and in small letters.
-/

namespace ChatSpaces

namespace Restraint.Kind

variable {k : Kind} {raw : String} {unknown : Unknown}

/-- The text is the name of the kind, with blanks around it and letters of either case. -/
def SpelledBy (k : Kind) (raw : String) : Prop := Text.lower (Text.trim raw) = k.name

instance (k : Kind) (raw : String) : Decidable (k.SpelledBy raw) :=
  inferInstanceAs (Decidable (Text.lower (Text.trim raw) = k.name))

theorem ofName?_eq_some_iff {s : String} : ofName? s = some k ↔ s = k.name := by
  constructor
  · intro named
    unfold ofName? at named
    split at named
    · cases named
      assumption
    · split at named
      · cases named
        assumption
      · split at named
        · cases named
          assumption
        · cases named
  · rintro rfl
    exact ofName?_name k

theorem read_eq_ok_iff_spelledBy : read raw = .ok k ↔ k.SpelledBy raw := by
  rw [read_eq_ok_iff, ofName?_eq_some_iff, SpelledBy]

theorem read_eq_error_iff : read raw = .error unknown ↔
    (∀ k : Kind, ¬ k.SpelledBy raw) ∧ unknown = ⟨Text.lower (Text.trim raw)⟩ := by
  simp only [← read_eq_ok_iff_spelledBy, read]
  cases ofName? (Text.lower (Text.trim raw)) with
  | some k => simp
  | none => simp [eq_comm]

theorem exists_eq_name_iff {s : String} : (∃ k : Kind, s = k.name) ↔ s ∈ ["mute", "ban", "timeout"] := by
  simp only [List.mem_cons, List.not_mem_nil, or_false]
  constructor
  · rintro ⟨_ | _ | _, named⟩
    · exact .inl named
    · exact .inr (.inl named)
    · exact .inr (.inr named)
  · rintro (named | named | named)
    · exact ⟨.mute, named⟩
    · exact ⟨.ban, named⟩
    · exact ⟨.timeout, named⟩

theorem exists_spelledBy_iff :
    (∃ k : Kind, k.SpelledBy raw) ↔ Text.lower (Text.trim raw) ∈ ["mute", "ban", "timeout"] :=
  exists_eq_name_iff

theorem isWord_name (k : Kind) : Text.IsWord k.name := by cases k <;> decide

theorem spelledBy_iff : k.SpelledBy raw ↔ ∃ before word after,
    Text.IsBlankText before ∧ Text.IsBlankText after ∧ raw = before ++ word ++ after ∧ Text.lower word = k.name := by
  constructor
  · intro spelled
    obtain ⟨before, after, blank, blank', whole⟩ := Text.exists_trim raw
    exact ⟨before, Text.trim raw, after, blank, blank', whole, spelled⟩
  · rintro ⟨before, word, after, blank, blank', whole, lowered⟩
    have solid : Text.IsWord word := Text.isWord_lower_iff.mp (lowered ▸ k.isWord_name)
    rw [SpelledBy, (Text.trim_eq_iff solid).mpr ⟨before, after, blank, blank', whole⟩, lowered]

theorem trimmed_mem_names_iff : Text.lower (Text.trim raw) ∈ ["mute", "ban", "timeout"] ↔ ∃ before word after,
    Text.IsBlankText before ∧ Text.IsBlankText after ∧ raw = before ++ word ++ after ∧
      Text.lower word ∈ ["mute", "ban", "timeout"] := by
  simp only [← exists_eq_name_iff]
  constructor
  · rintro ⟨k, spelled⟩
    obtain ⟨before, word, after, blank, blank', whole, lowered⟩ := spelledBy_iff.mp spelled
    exact ⟨before, word, after, blank, blank', whole, k, lowered⟩
  · rintro ⟨before, word, after, blank, blank', whole, k, lowered⟩
    exact ⟨k, spelledBy_iff.mpr ⟨before, word, after, blank, blank', whole, lowered⟩⟩

theorem spelledBy_name (k : Kind) : k.SpelledBy k.name := by cases k <;> decide

end Restraint.Kind

end ChatSpaces
