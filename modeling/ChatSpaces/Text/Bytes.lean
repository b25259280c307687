/-!
# Places in a text, counted in bytes

A character takes one to four bytes in UTF-8. A text is cut only between whole characters: a cut that
would fall inside a character is made before it. `upTo?_append` says that a text is cut where its beginning ends.
-/

namespace ChatSpaces.Text

open String.Pos.Raw (IsValid)

def byteSize : List Char → Nat
  | [] => 0
  | c :: cs => c.utf8Size + byteSize cs

/-- The longest beginning of at most `limit` bytes. -/
def fitting (limit : Nat) : List Char → List Char
  | [] => []
  | c :: cs => if c.utf8Size ≤ limit then c :: fitting (limit - c.utf8Size) cs else []

def beyond (limit : Nat) : List Char → List Char
  | [] => []
  | c :: cs => if c.utf8Size ≤ limit then beyond (limit - c.utf8Size) cs else c :: cs

def between (start stop : Nat) (cs : List Char) : List Char :=
  fitting (stop - start) (beyond start cs)

/-- The last place between characters that is not after the given one, looked for backwards. There would be none if
the search had to go below zero. -/
def boundaryBack? (s : String) : Nat → Option Nat
  | 0 => if IsValid s ⟨0⟩ then some 0 else none
  | stop + 1 => if IsValid s ⟨stop + 1⟩ then some (stop + 1) else boundaryBack? s stop

/-- The text up to a place that is counted in bytes. A character cannot be cut. -/
def upTo? (s : String) (stop : Nat) : Option String :=
  if h : IsValid s ⟨stop⟩ then some (.fromUTF8 (s.toByteArray.extract 0 stop) h.isValidUTF8_extract_zero)
  else none

section Cuts

variable {s p : String} {limit stop : Nat}

theorem isValid_iff_exists_append : IsValid s ⟨stop⟩ ↔ ∃ p rest, s = p ++ rest ∧ p.utf8ByteSize = stop := by
  rw [String.Pos.Raw.isValid_iff_exists_append]
  simp [String.Pos.Raw.ext_iff, eq_comm]

/-- The search ends: the beginning of a text is a place between characters. -/
theorem exists_boundaryBack? (s : String) (limit : Nat) : ∃ stop, boundaryBack? s limit = some stop := by
  induction limit with
  | zero => exact ⟨0, if_pos String.Pos.Raw.isValid_zero⟩
  | succ limit ih =>
    unfold boundaryBack?
    split
    · exact ⟨_, rfl⟩
    · exact ih

theorem boundaryBack?_spec (found : boundaryBack? s limit = some stop) :
    stop ≤ limit ∧ IsValid s ⟨stop⟩ ∧ ∀ place ≤ limit, IsValid s ⟨place⟩ → place ≤ stop := by
  induction limit with
  | zero =>
    obtain ⟨valid, rfl⟩ : IsValid s ⟨0⟩ ∧ 0 = stop := by simpa [boundaryBack?] using found
    exact ⟨Nat.le_refl 0, valid, fun place le _ => le⟩
  | succ limit ih =>
    unfold boundaryBack? at found
    split at found
    · next valid =>
      cases found
      exact ⟨Nat.le_refl _, valid, fun place le _ => le⟩
    · next invalid =>
      obtain ⟨le, valid, last⟩ := ih found
      refine ⟨Nat.le_succ_of_le le, valid, fun place within valid => ?_⟩
      rcases Nat.lt_or_eq_of_le within with lt | rfl
      · exact last place (Nat.le_of_lt_succ lt) valid
      · exact absurd valid invalid

theorem upTo?_append (p rest : String) : upTo? (p ++ rest) p.utf8ByteSize = some p := by
  have valid : IsValid (p ++ rest) ⟨p.utf8ByteSize⟩ := isValid_iff_exists_append.mpr ⟨p, rest, rfl, rfl⟩
  rw [upTo?, dif_pos valid, Option.some_inj, ← String.toByteArray_inj]
  change (p ++ rest).toByteArray.extract 0 p.utf8ByteSize = p.toByteArray
  rw [String.toByteArray_append]
  exact ByteArray.extract_append_eq_left p.size_toByteArray

end Cuts

end ChatSpaces.Text
