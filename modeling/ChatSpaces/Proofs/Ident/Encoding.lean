import ChatSpaces.Proofs.Document.Json
import ChatSpaces.Scope
import Mathlib.Data.List.Perm.Basic

/-!
# Encodings of identifiers and scopes

Identifiers are written as text and read from text or from whole numbers; scopes are records with an identifier in them.
What is written is read as it was, and what is read as an identifier is written in the one canonical way.
-/

namespace ChatSpaces

open Document (Json.read? Json.write Json.read?_write)
open Number (Word.Fits)
open Text (Spells Canonical)

namespace Ident

variable {s : String} {i : Ident}

theorem ofText?_eq_some_iff : ofText? s = some i ↔ Spells i.toInt s.toList := by
  rw [ofText?, Option.map_eq_some_iff]
  constructor
  · rintro ⟨n, read, rfl⟩
    obtain ⟨spells, fits⟩ := Text.intWithin?_eq_some_iff.mp read
    rwa [toInt_ofInt fits]
  · intro spells
    exact ⟨i.toInt, Text.intWithin?_eq_some_iff.mpr ⟨spells, i.le_toInt, i.toInt_le⟩, ofInt_toInt i⟩

theorem exists_ofText?_iff : (∃ i, ofText? s = some i) ↔ ∃ n, Word.Fits n ∧ Spells n s.toList := by
  constructor
  · rintro ⟨i, read⟩
    exact ⟨i.toInt, ⟨i.le_toInt, i.toInt_le⟩, ofText?_eq_some_iff.mp read⟩
  · rintro ⟨n, fits, spells⟩
    refine ⟨ofInt n, ofText?_eq_some_iff.mpr ?_⟩
    rwa [toInt_ofInt fits]

theorem canonical_toText_iff (i : Ident) {cs : List Char} : Canonical i.toInt cs ↔ cs = i.toText.toList :=
  Text.canonical_iff

@[simp] theorem ofText?_toText (i : Ident) : ofText? i.toText = some i :=
  ofText?_eq_some_iff.mpr (i.canonical_toText_iff.mpr rfl).spells

theorem toText_inj {i j : Ident} : i.toText = j.toText ↔ i = j := by
  refine ⟨fun same => ?_, congrArg _⟩
  have read := ofText?_toText j
  rw [← same, ofText?_toText, Option.some_inj] at read
  exact read

@[simp] theorem ofDocument?_document (i : Ident) : ofDocument? i.document = some i := ofText?_toText i

@[simp] theorem ofDocument?_whole (i : Ident) : ofDocument? (.whole i.toInt) = some i := by
  rw [ofDocument?, if_pos ⟨i.le_toInt, i.toInt_le⟩, ofInt_toInt]

end Ident

theorem Document.lookup_of_perm {name : String} {d : Document} {others fields : List (String × Document)}
    (apart : ∀ f ∈ others, f.1 ≠ name) (same : fields.Perm ((name, d) :: others)) : lookup name fields = some d := by
  have none : others.filter (fun f => f.1 = name) = [] := List.filter_eq_nil_iff.mpr (by simpa using apart)
  have once : fields.reverse.filter (fun f => f.1 = name) = [(name, d)] := by
    apply List.perm_singleton.mp
    refine ((fields.reverse_perm.trans same).filter _).trans (.of_eq ?_)
    rw [List.filter_cons_of_pos (by simp), none]
  rw [lookup, ← List.head?_filter, once]
  rfl

namespace Scope

variable {s t : Scope}

theorem ofDocument?_record {d : Document} {extra fields : List (String × Document)}
    (id : Ident.ofDocument? d = some s.id) (apart : ∀ f ∈ extra, f.1 ≠ "kind" ∧ f.1 ≠ "id")
    (same : fields.Perm (("kind", .text s.kind.name) :: ("id", d) :: extra)) :
    ofDocument? (.record fields) = some s := by
  have kind : Document.lookup "kind" fields = some (.text s.kind.name) := by
    refine Document.lookup_of_perm ?_ same
    simpa using fun f mem => (apart f mem).1
  have ident : Document.lookup "id" fields = some d := by
    refine Document.lookup_of_perm ?_ (same.trans (.swap ..))
    simpa using fun f mem => (apart f mem).2
  simp [ofDocument?, Document.fields?, kind, ident, kindName?, Document.name?, id]

/-- The kind can be told from the first letter. -/
theorem toText_inj : s.toText = t.toText ↔ s = t := by
  refine ⟨fun same => ?_, congrArg _⟩
  have letters := congrArg String.toList same
  simp only [toText, String.toList_append, List.append_assoc] at letters
  have ident {i j : Ident} {k : Kind} (whole : k.name.toList ++ (":".toList ++ i.toText.toList) =
      k.name.toList ++ (":".toList ++ j.toText.toList)) : i = j :=
    Ident.toText_inj.mp (String.toList_inj.mp (List.append_cancel_left (List.append_cancel_left whole)))
  cases s <;> cases t
  case space.space i j => exact congrArg space (ident (k := .space) letters)
  case channel.channel i j => exact congrArg channel (ident (k := .channel) letters)
  case space.channel => simp [kind, Kind.name] at letters
  case channel.space => simp [kind, Kind.name] at letters

end Scope

/-- For every identifier: its text, its document in JSON, which is that text, and the whole number in JSON are all read
as the identifier again. A text is read as an identifier just if it is made of one or more ASCII digits, with at most
one sign before them, and denotes a number of sixty-four bits; what is written for that one is the only canonical
spelling of the number. For every scope: a record in which the kind and the identifier, as a text or as a whole number,
stand in any order and among whatever else is read as the scope, in JSON or not; so is the kind, by the name it is
stored under, with the identifier. No two scopes have the same text. -/
theorem encodings_round_trip :
    (∀ i : Ident, Ident.ofText? i.toText = some i ∧ i.document = .text i.toText ∧
      (Json.read? (Json.write i.document)).bind Ident.ofDocument? = some i ∧
      (Json.read? (Json.write (.whole i.toInt))).bind Ident.ofDocument? = some i) ∧
    (∀ s, (∃ i, Ident.ofText? s = some i) ↔ ∃ n, Word.Fits n ∧ Spells n s.toList) ∧
    (∀ s i, Ident.ofText? s = some i →
      Spells i.toInt s.toList ∧ ∀ cs, Canonical i.toInt cs ↔ cs = i.toText.toList) ∧
    (∀ (s : Scope) (d : Document) (extra fields : List (String × Document)),
      d = s.id.document ∨ d = .whole s.id.toInt → (∀ f ∈ extra, f.1 ≠ "kind" ∧ f.1 ≠ "id") →
      fields.Perm (("kind", .text s.kind.name) :: ("id", d) :: extra) →
      Scope.ofDocument? (.record fields) = some s ∧
      ((Document.record fields).RealFree →
        (Json.read? (Json.write (.record fields))).bind Scope.ofDocument? = some s)) ∧
    (∀ s : Scope, (Json.read? (Json.write s.document)).bind Scope.ofDocument? = some s ∧
      (Scope.Kind.ofName? s.kind.name).map (Scope.ofParts · s.id) = some s) ∧
    ∀ s t : Scope, s.toText = t.toText → s = t := by
  have record (s : Scope) (d : Document) (extra fields : List (String × Document))
      (id : d = s.id.document ∨ d = .whole s.id.toInt) (apart : ∀ f ∈ extra, f.1 ≠ "kind" ∧ f.1 ≠ "id")
      (same : fields.Perm (("kind", .text s.kind.name) :: ("id", d) :: extra)) :
      Scope.ofDocument? (.record fields) = some s := by
    refine Scope.ofDocument?_record ?_ apart same
    rcases id with rfl | rfl
    · exact s.id.ofDocument?_document
    · exact s.id.ofDocument?_whole
  refine ⟨fun i => ⟨i.ofText?_toText, rfl, ?text, ?whole⟩, fun s => Ident.exists_ofText?_iff,
    fun s i read => ⟨Ident.ofText?_eq_some_iff.mp read, fun cs => i.canonical_toText_iff⟩, ?scope,
    fun s => ⟨?written, ?parts⟩, fun s t => Scope.toText_inj.mp⟩
  case text =>
    rw [Json.read?_write (d := i.document) trivial, Option.bind_some, Ident.ofDocument?_document]
  case whole =>
    rw [Json.read?_write (d := .whole i.toInt) trivial, Option.bind_some, Ident.ofDocument?_whole]
  case scope =>
    intro s d extra fields id apart same
    have read := record s d extra fields id apart same
    refine ⟨read, fun free => ?_⟩
    rw [Json.read?_write free, Option.bind_some, read]
  case written =>
    rw [Json.read?_write (d := s.document) ⟨trivial, trivial, trivial⟩, Option.bind_some]
    exact record s s.id.document [] _ (.inl rfl) nofun (.refl _)
  case parts => rw [Scope.Kind.ofName?_name, Option.map_some, Scope.ofParts_kind_id]

/-- The least identifier can be read, and zeros before a number; two signs cannot, nor a number past the greatest. -/
example : Ident.ofText? "-9223372036854775808" = some .least ∧ Ident.ofText? "+007" = some ⟨7⟩ ∧
    Ident.ofText? "--7" = none ∧ Ident.ofText? "9223372036854775808" = none := by
  decide

end ChatSpaces
