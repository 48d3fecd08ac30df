/-! Integers of sixty-four bits. -/

namespace AspectWeaving.Word

/-- How many different words there are. -/
def count : Nat := 0x10000000000000000

/-- Whether a word without sign can hold a number. -/
def holds (n : Nat) : Bool := n < count

/-- Whether a word with sign can hold an integer. -/
def holdsSigned (n : Int) : Bool := -0x8000000000000000 ≤ n && n < 0x8000000000000000

/-- The word with sign that an integer leaves when the bits above it are cut off. -/
def wrap (n : Int) : Int := Int.bmod n count

end AspectWeaving.Word
