import ChatSpaces.Entity
import Mathlib.Data.List.Infix

/-!
# Previews

A preview is looked for from behind: from the place where the limit is, byte by byte, back to where a character begins.
What is found so is the longest beginning of the body that is within the limit.
-/

namespace ChatSpaces

/-- The longest beginning of a text, cut between characters, that has at most `limit` bytes in UTF-8. -/
structure LongestFitting (s : String) (limit : Nat) (p : String) : Prop where
  begins : p.toList <+: s.toList
  fits : p.utf8ByteSize ≤ limit
  longest : ∀ q : String, q.toList <+: s.toList → q.utf8ByteSize ≤ limit → q.toList <+: p.toList

section Beginnings

variable {s p q : String} {limit : Nat}

theorem prefix_toList_iff : p.toList <+: s.toList ↔ ∃ rest, s = p ++ rest := by
  constructor
  · rintro ⟨rest, whole⟩
    exact ⟨.ofList rest, String.toList_inj.mp (by rw [String.toList_append, String.toList_ofList, whole])⟩
  · rintro ⟨rest, rfl⟩
    exact ⟨rest.toList, String.toList_append.symm⟩

theorem prefix_of_utf8ByteSize_le (hp : p.toList <+: s.toList) (hq : q.toList <+: s.toList)
    (le : q.utf8ByteSize ≤ p.utf8ByteSize) : q.toList <+: p.toList := by
  rcases List.prefix_or_prefix_of_prefix hq hp with shorter | longer
  · exact shorter
  · obtain ⟨rest, rfl⟩ := prefix_toList_iff.mp longer
    have nothing : rest = "" := by
      rw [String.utf8ByteSize_append] at le
      exact String.utf8ByteSize_eq_zero_iff.mp (by omega)
    rw [nothing, String.append_empty]

namespace LongestFitting

theorem whole (fits : s.utf8ByteSize ≤ limit) : LongestFitting s limit s :=
  ⟨List.prefix_rfl, fits, fun _ begins _ => begins⟩

theorem unique (hp : LongestFitting s limit p) (hq : LongestFitting s limit q) : p = q := by
  have pq := hq.longest p hp.begins hp.fits
  have qp := hp.longest q hq.begins hq.fits
  exact String.toList_inj.mp (pq.eq_of_length_le qp.length_le)

/-- The next character would not have fitted, and no character has more than four bytes. -/
theorem lt_add_four (h : LongestFitting s limit p) (exceeds : limit < s.utf8ByteSize) : limit < p.utf8ByteSize + 4 := by
  obtain ⟨rest, whole⟩ := h.begins
  cases rest with
  | nil =>
    rw [List.append_nil, String.toList_inj] at whole
    rw [whole]
    omega
  | cons c rest =>
    have begins : (p.push c).toList <+: s.toList :=
      ⟨rest, by rw [String.toList_push, List.append_assoc, List.singleton_append, whole]⟩
    by_contra short
    have fits : (p.push c).utf8ByteSize ≤ limit := by
      have := c.utf8Size_le_four
      rw [String.utf8ByteSize_push]
      omega
    have shorter := (h.longest _ begins fits).length_le
    rw [String.toList_push, List.length_append, List.length_singleton] at shorter
    omega

end LongestFitting

end Beginnings

namespace Message

theorem preview?_eq_some_preview (m : Message) (limit : Nat) : m.preview? limit = some (m.preview limit) :=
  (Option.some_get _).symm

theorem longestFitting_preview (m : Message) (limit : Nat) : LongestFitting m.body limit (m.preview limit) := by
  have shown := m.preview?_eq_some_preview limit
  unfold preview? at shown
  split at shown
  · next fits =>
    rw [← Option.some_inj.mp shown]
    exact .whole fits
  · obtain ⟨stop, found, cut⟩ := Option.bind_eq_some_iff.mp shown
    obtain ⟨within, valid, last⟩ := Text.boundaryBack?_spec found
    obtain ⟨p, rest, whole, rfl⟩ := Text.isValid_iff_exists_append.mp valid
    rw [whole, Text.upTo?_append, Option.some_inj] at cut
    rw [← cut]
    have begins : p.toList <+: m.body.toList := prefix_toList_iff.mpr ⟨rest, whole⟩
    refine ⟨begins, within, fun q begins' fits => ?_⟩
    obtain ⟨more, split⟩ := prefix_toList_iff.mp begins'
    have earlier := last _ fits (Text.isValid_iff_exists_append.mpr ⟨q, more, split, rfl⟩)
    exact prefix_of_utf8ByteSize_le begins begins' earlier

/-- For every body and every limit the search for a place to cut at comes to an end before it falls below zero, and
does not end inside a character. The preview is the longest beginning of the body, cut between characters, that has
at most `limit` bytes in UTF-8, and the only one. So it is the whole body just if that has no more bytes, and else at
most three bytes too short; a larger limit lengthens it, and a second preview with the same limit is the first. -/
theorem preview_is_longest (m : Message) (limit : Nat) :
    m.preview? limit = some (m.preview limit) ∧
    (∀ p, LongestFitting m.body limit p ↔ m.preview limit = p) ∧
    (m.preview limit = m.body ↔ m.body.utf8ByteSize ≤ limit) ∧
    (limit < m.body.utf8ByteSize → limit ≤ (m.preview limit).utf8ByteSize + 3) ∧
    (∀ larger, limit ≤ larger → (m.preview limit).toList <+: (m.preview larger).toList) ∧
    { m with body := m.preview limit }.preview limit = m.preview limit := by
  have longest := m.longestFitting_preview limit
  refine ⟨m.preview?_eq_some_preview limit, fun p => ⟨longest.unique, ?only⟩,
    ⟨?whole, fun fits => longest.unique (.whole fits)⟩, fun exceeds => Nat.le_of_lt_succ (longest.lt_add_four exceeds),
    ?larger, ?again⟩
  case only =>
    rintro rfl
    exact longest
  case whole =>
    intro whole
    rw [← whole]
    exact longest.fits
  case larger =>
    intro larger le
    exact (m.longestFitting_preview larger).longest _ longest.begins (Nat.le_trans longest.fits le)
  case again => exact (longestFitting_preview { m with body := m.preview limit } limit).unique (.whole longest.fits)

/-- Each character of this body has three bytes, so the fourth byte is inside the second. -/
example : (Message.mk ⟨1⟩ ⟨100⟩ ⟨200⟩ "腰不舒服！" false (.ofMillis 0) (.ofMillis 0)).preview 4 = "腰" := by
  decide

end Message

end ChatSpaces
