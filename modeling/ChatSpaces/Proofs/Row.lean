import ChatSpaces.Proofs.Restraint
import ChatSpaces.Row

/-!
# Rows of restraints

A restraint is written with its kind by name and is read from any row that says the same, however the kind is spelled.
The kind of the scope has one spelling only. A row that cannot be read is reported with what is wrong in it, the scope
before the kind.
-/

namespace ChatSpaces

namespace Scope.Kind

theorem exists_ofName?_iff {s : String} : (∃ k, ofName? s = some k) ↔ s = "space" ∨ s = "channel" := by
  simp only [ofName?_eq_some_iff]
  constructor
  · rintro ⟨_ | _, named⟩
    · exact .inl named
    · exact .inr named
  · rintro (named | named)
    · exact ⟨.space, named⟩
    · exact ⟨.channel, named⟩

end Scope.Kind

namespace RestraintRow

open Restraint (Kind)

variable {row : RestraintRow} {r : Restraint} {failure : Failure}

theorem toRestraint_eq_ok_iff :
    row.toRestraint = .ok r ↔ r.kind.SpelledBy row.kind ∧ r.toRow = { row with kind := r.kind.name } := by
  constructor
  · intro taken
    unfold toRestraint at taken
    split at taken
    · cases taken
    · next scopeKind named =>
      split at taken
      · cases taken
      · next kind read =>
        cases taken
        refine ⟨Kind.read_eq_ok_iff_spelledBy.mp read, ?_⟩
        rw [Restraint.toRow, Scope.kind_ofParts, Scope.id_ofParts, Scope.Kind.ofName?_eq_some_iff.mp named]
  · rintro ⟨spelled, same⟩
    obtain ⟨scopeKind, scopeId, user, raw, expiresAt, issuedBy, issuedAt, reason⟩ := row
    obtain ⟨rfl, rfl, rfl, -, rfl, rfl, rfl, rfl⟩ := RestraintRow.mk.inj same
    have read : Kind.read raw = .ok r.kind := Kind.read_eq_ok_iff_spelledBy.mpr spelled
    simp only [toRestraint, Scope.Kind.ofName?_name, read, Scope.ofParts_kind_id]

theorem text_of_unknown (text : String) :
    "restraint row: " ++ (Kind.Unknown.mk text).message = "restraint row: unknown restraint kind: " ++ text := by
  change "restraint row: " ++ ("unknown restraint kind: " ++ text) = _
  rw [← String.append_assoc, String.append_left_inj]
  simp only [String.reduceAppend]

theorem toRestraint_of_unknown_scope (unknown : Scope.Kind.ofName? row.scopeKind = none) :
    row.toRestraint = .error (.broken ("unknown scope kind in row: " ++ row.scopeKind)) := by
  rw [toRestraint, unknown]

theorem toRestraint_of_unspelled (known : ∃ k, Scope.Kind.ofName? row.scopeKind = some k)
    (unspelled : ¬ ∃ k : Kind, k.SpelledBy row.kind) : row.toRestraint =
      .error (.broken ("restraint row: unknown restraint kind: " ++ Text.lower (Text.trim row.kind))) := by
  obtain ⟨scopeKind, named⟩ := known
  have read : Kind.read row.kind = .error ⟨Text.lower (Text.trim row.kind)⟩ :=
    Kind.read_eq_error_iff.mpr ⟨not_exists.mp unspelled, rfl⟩
  simp only [toRestraint, named, read, text_of_unknown]

theorem toRestraint_eq_error_iff : row.toRestraint = .error failure ↔
    ((¬ ∃ k, Scope.Kind.ofName? row.scopeKind = some k) ∧
      failure = .broken ("unknown scope kind in row: " ++ row.scopeKind)) ∨
    ((∃ k, Scope.Kind.ofName? row.scopeKind = some k) ∧ (¬ ∃ k : Kind, k.SpelledBy row.kind) ∧
      failure = .broken ("restraint row: unknown restraint kind: " ++ Text.lower (Text.trim row.kind))) := by
  constructor
  · intro refused
    cases named : Scope.Kind.ofName? row.scopeKind with
    | none =>
      rw [toRestraint_of_unknown_scope named] at refused
      exact .inl ⟨nofun, (Except.error.inj refused).symm⟩
    | some scopeKind =>
      have unspelled : ¬ ∃ k : Kind, k.SpelledBy row.kind := by
        rintro ⟨k, spelled⟩
        have read := Kind.read_eq_ok_iff_spelledBy.mpr spelled
        simp only [toRestraint, named, read] at refused
        cases refused
      rw [toRestraint_of_unspelled ⟨scopeKind, named⟩ unspelled] at refused
      exact .inr ⟨⟨scopeKind, rfl⟩, unspelled, (Except.error.inj refused).symm⟩
  · rintro (⟨unknown, rfl⟩ | ⟨known, unspelled, rfl⟩)
    · exact toRestraint_of_unknown_scope (Option.not_isSome_iff_eq_none.mp (mt Option.isSome_iff_exists.mp unknown))
    · exact toRestraint_of_unspelled known unspelled

theorem exists_toRestraint_iff : (∃ r, row.toRestraint = .ok r) ↔
    (∃ k, Scope.Kind.ofName? row.scopeKind = some k) ∧ ∃ k : Kind, k.SpelledBy row.kind := by
  constructor
  · rintro ⟨r, taken⟩
    obtain ⟨spelled, same⟩ := toRestraint_eq_ok_iff.mp taken
    have named : r.scope.kind.name = row.scopeKind := congrArg scopeKind same
    exact ⟨⟨r.scope.kind, Scope.Kind.ofName?_eq_some_iff.mpr named.symm⟩, r.kind, spelled⟩
  · rintro ⟨known, spelled⟩
    cases outcome : row.toRestraint with
    | ok r => exact ⟨r, rfl⟩
    | error failure =>
      rcases toRestraint_eq_error_iff.mp outcome with ⟨unknown, -⟩ | ⟨-, unspelled, -⟩
      · exact absurd known unknown
      · exact absurd spelled unspelled

theorem toRestraint_toRow (r : Restraint) : r.toRow.toRestraint = .ok r :=
  toRestraint_eq_ok_iff.mpr ⟨r.kind.spelledBy_name, rfl⟩

/-- Every restraint is read from the row that it is written to. Of all rows, whatever texts they hold: a row is read just
if its scope is called `space` or `channel` and its kind, without blanks around it and in small letters, `mute`, `ban` or
`timeout`; so there may be blanks before and after the name of the kind, and capital letters in it, and nothing else. Any
other row is reported as broken, for its scope if that is not known and else for its kind. What is read from a row is
written to the same row but for the spelling of the kind, and is read from that again. -/
theorem stored_restraints_are_read :
    (∀ r : Restraint, r.toRow.toRestraint = .ok r) ∧
    ∀ row : RestraintRow,
      ((∃ r, row.toRestraint = .ok r) ↔ (row.scopeKind = "space" ∨ row.scopeKind = "channel") ∧
        Text.lower (Text.trim row.kind) ∈ ["mute", "ban", "timeout"]) ∧
      (Text.lower (Text.trim row.kind) ∈ ["mute", "ban", "timeout"] ↔ ∃ before word after,
        Text.IsBlankText before ∧ Text.IsBlankText after ∧ row.kind = before ++ word ++ after ∧
          Text.lower word ∈ ["mute", "ban", "timeout"]) ∧
      (∀ failure, row.toRestraint = .error failure ↔
        (¬ (row.scopeKind = "space" ∨ row.scopeKind = "channel") ∧
          failure = .broken ("unknown scope kind in row: " ++ row.scopeKind)) ∨
        ((row.scopeKind = "space" ∨ row.scopeKind = "channel") ∧
          Text.lower (Text.trim row.kind) ∉ ["mute", "ban", "timeout"] ∧
          failure = .broken ("restraint row: unknown restraint kind: " ++ Text.lower (Text.trim row.kind)))) ∧
      ∀ r, row.toRestraint = .ok r →
        r.toRow = { row with kind := r.kind.name } ∧ r.toRow.toRestraint = .ok r := by
  refine ⟨toRestraint_toRow, fun row => ⟨?_, Kind.trimmed_mem_names_iff, fun failure => ?_, fun r taken => ?_⟩⟩
  · rw [exists_toRestraint_iff, Scope.Kind.exists_ofName?_iff, Kind.exists_spelledBy_iff]
  · rw [toRestraint_eq_error_iff, Scope.Kind.exists_ofName?_iff, Kind.exists_spelledBy_iff]
  · exact ⟨(toRestraint_eq_ok_iff.mp taken).2, toRestraint_toRow r⟩

end RestraintRow

end ChatSpaces
