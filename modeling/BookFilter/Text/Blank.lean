/-! # Blank text

The characters with the property White_Space, and texts that hold nothing else. -/

namespace BookFilter.Text

/-- The runs of code points with the property White_Space, ends included. -/
def whiteSpaceRuns : List (Nat × Nat) := [
  (0x09, 0x0D), (0x20, 0x20), (0x85, 0x85), (0xA0, 0xA0), (0x1680, 0x1680), (0x2000, 0x200A),
  (0x2028, 0x2029), (0x202F, 0x202F), (0x205F, 0x205F), (0x3000, 0x3000)]

/-- Whether a character has the property White_Space. -/
def isWhiteSpace (c : Char) : Bool :=
  whiteSpaceRuns.any fun (first, last) => first ≤ c.toNat && c.toNat ≤ last

/-- Whether a text is empty or white space throughout. -/
def isBlank (text : List Char) : Bool :=
  text.all isWhiteSpace

end BookFilter.Text
