/-!
# Letter case

Names and words are compared in ASCII: only the letters A to Z have a lower case here, so accented
letters and letters of other scripts stand for themselves.
-/

namespace ChatSpaces.Text

def lower (s : String) : String := String.ofList (s.toList.map Char.toLower)

/-- Equality that does not tell A to Z from a to z. -/
def SameWord (s t : String) : Prop := lower s = lower t

instance (s t : String) : Decidable (SameWord s t) := inferInstanceAs (Decidable (lower s = lower t))

/-- The Kelvin sign is the one other character whose lower case is a letter of ASCII. -/
def lowerNameChar (c : Char) : Char := if c = '\u212A' then 'k' else c.toLower

def lowerName (s : String) : String := String.ofList (s.toList.map lowerNameChar)

end ChatSpaces.Text
