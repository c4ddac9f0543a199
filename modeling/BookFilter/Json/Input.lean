import BookFilter.Json

/-! # Input text

A JSON text to be read is a list of characters in which a byte that is no part of a character has a
place of its own. -/

namespace BookFilter

/-- A text to be read; `none` stands for a byte that is no part of a character. -/
abbrev Input := List (Option Char)

/-- A text without stray bytes as input. -/
def Input.ofString (text : String) : Input :=
  text.toList.map some

end BookFilter
