/-! # Bytes as text

Bytes are read as UTF-8. A byte that is no part of a well-formed character stands as `none`, so that
what comes after it can still be read. -/

namespace BookFilter.Text

/-- The characters from a position on. -/
def charsFrom (bytes : ByteArray) (start : Nat) : List (Option Char) :=
  if start < bytes.size then
    match bytes.utf8DecodeChar? start with
    | some c => some c :: charsFrom bytes (start + c.utf8Size)
    | none => none :: charsFrom bytes (start + 1)
  else []
termination_by bytes.size - start
decreasing_by
  · have := c.utf8Size_pos
    omega
  · omega

/-- The characters of UTF-8 bytes. -/
def charsOfUtf8 (bytes : ByteArray) : List (Option Char) :=
  charsFrom bytes 0

end BookFilter.Text
