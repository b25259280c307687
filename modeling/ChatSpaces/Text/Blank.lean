/-!
# Blank characters

The characters with the Unicode property White_Space, and trimming by them. There are twenty-five;
the zero-width space and the byte order mark are not among them.
-/

namespace ChatSpaces.Text

/-- The code points that are blank, as closed ranges. -/
def blankRanges : List (Nat × Nat) :=
  [(0x09, 0x0D), (0x20, 0x20), (0x85, 0x85), (0xA0, 0xA0), (0x1680, 0x1680), (0x2000, 0x200A),
   (0x2028, 0x2029), (0x202F, 0x202F), (0x205F, 0x205F), (0x3000, 0x3000)]

def isBlank (c : Char) : Bool :=
  blankRanges.any (fun r => r.1 ≤ c.toNat && c.toNat ≤ r.2)

def trimStart (cs : List Char) : List Char := cs.dropWhile isBlank

def trimChars (cs : List Char) : List Char :=
  (trimStart (trimStart cs).reverse).reverse

def trimEnd (s : String) : String := String.ofList (trimStart s.toList.reverse).reverse

def trim (s : String) : String := String.ofList (trimChars s.toList)

/-- A text of blanks only, the empty text included. -/
def IsBlankText (s : String) : Prop := s.toList.all isBlank = true

instance (s : String) : Decidable (IsBlankText s) :=
  inferInstanceAs (Decidable (s.toList.all isBlank = true))

theorem trimStart_eq_nil_iff (cs : List Char) : trimStart cs = [] ↔ cs.all isBlank = true := by
  induction cs with
  | nil => simp [trimStart]
  | cons c cs ih => by_cases h : isBlank c <;> simp_all [trimStart]

theorem trimChars_eq_nil_iff (cs : List Char) : trimChars cs = [] ↔ cs.all isBlank = true := by
  unfold trimChars
  rw [List.reverse_eq_nil_iff, trimStart_eq_nil_iff, List.all_reverse]
  constructor
  · intro h
    cases hd : trimStart cs with
    | nil => exact (trimStart_eq_nil_iff cs).mp hd
    | cons c rest =>
      have hc : isBlank c = false := by
        have := List.head?_dropWhile_not isBlank cs
        simp only [trimStart] at hd
        simpa [hd] using this
      rw [hd] at h
      simp [hc] at h
  · intro h
    rw [(trimStart_eq_nil_iff cs).mpr h]
    rfl

theorem trim_eq_empty_iff (s : String) : trim s = "" ↔ IsBlankText s := by
  rw [show ("" : String) = String.ofList [] from rfl, trim, String.ofList_inj]
  exact trimChars_eq_nil_iff _

end ChatSpaces.Text
