/-!
# Words

The bounds of the whole numbers that fit a word of a fixed number of bits.
-/

namespace ChatSpaces.Number.Word

abbrev max16 : Nat := 65535

abbrev max32 : Nat := 4294967295

abbrev max64 : Nat := 18446744073709551615

abbrev minSigned : Int := -9223372036854775808

abbrev maxSigned : Int := 9223372036854775807

abbrev Fits (n : Int) : Prop := minSigned ≤ n ∧ n ≤ maxSigned

end ChatSpaces.Number.Word
