/-!
# Words

The whole numbers that 64 bits can hold, without and with a sign.
-/

namespace BranchingStory.Word

/-- The least number that 64 bits without a sign cannot hold. -/
def bound : Nat := 18446744073709551616

/-- The least number that 64 bits with a sign cannot hold. They can hold its negative. -/
def signedBound : Nat := 9223372036854775808

/-- Whether 64 bits with a sign can hold a whole number. -/
def holds (i : Int) : Bool :=
  -Int.ofNat signedBound ≤ i && i < Int.ofNat signedBound

end BranchingStory.Word
