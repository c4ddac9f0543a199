import BookFilter.Text.HiddenTable

/-! # Quoted text for messages

Quotation marks, backslashes and characters that cannot be seen are written as escapes; all others
stand for themselves. A character on its own has its own mark escaped, a text likewise. -/

namespace BookFilter.Text

/-- Whether the character is shown by number: the property has flipped an odd number of times. -/
def isHidden (c : Char) : Bool :=
  (hiddenFlips.takeWhile (· ≤ c.toNat)).length % 2 == 1

/-- One character of quoted text, where `mark` is the quotation mark in use. -/
def escaped (mark c : Char) : String :=
  if c = mark ∨ c = '\\' then "\\" ++ c.toString
  else if c = '\n' then "\\n"
  else if c = '\r' then "\\r"
  else if c = '\t' then "\\t"
  else if c = Char.ofNat 0 then "\\0"
  else if isHidden c then
    "\\u\x7b" ++ String.ofList (Nat.toDigits 16 c.toNat) ++ "\x7d"
  else c.toString

/-- A text in double quotation marks. -/
def quoted (text : String) : String :=
  "\"" ++ String.join (text.toList.map (escaped '"')) ++ "\""

/-- A character in single quotation marks. -/
def quotedChar (c : Char) : String :=
  "'" ++ escaped '\'' c ++ "'"

/-- A list of texts in brackets, each in double quotation marks. -/
def quotedList (texts : List String) : String :=
  "[" ++ ", ".intercalate (texts.map quoted) ++ "]"

end BookFilter.Text
