/-! # Control sequences

Text for a stream that is no terminal: control characters and control sequences are left out, and
only the white space among the control characters stays. White space is shown even where it
interrupts a sequence. What follows it is plain text, up to the next character that is not shown;
there the interrupted sequence goes on. -/

namespace BookFilter.Text

/-- Where a text is within a control sequence. -/
inductive Place where
  | outside
  /-- After an escape character. -/
  | escape
  /-- Before the last character of a short sequence. -/
  | escapeEnd
  /-- In the parameters of a control sequence proper. -/
  | control
  /-- At the start of a device control string. -/
  | deviceStart
  /-- In the parameters of a device control string. -/
  | deviceParameters
  /-- Between the parameters and the body of a device control string. -/
  | deviceIntermediate
  /-- In a string that a string terminator ends. -/
  | body
  /-- In a string for the operating system, which a bell ends. -/
  | title
deriving DecidableEq, Repr

/-- The control characters that are white space and stay; a vertical tab does not. -/
def isKeptControl (c : Char) : Bool :=
  c = '\t' || c = '\n' || c = '\x0C' || c = '\r'

/-- Whether a character is in a range of code points. -/
def isBetween (first last : Nat) (c : Char) : Bool :=
  first ≤ c.toNat && c.toNat ≤ last

/-- Whether a character is not in ASCII. -/
def isWide (c : Char) : Bool :=
  0x80 ≤ c.toNat

/-- Whether the bytes of a character end a string: one of them is the one-byte string
terminator. -/
def endsBody (c : Char) : Bool :=
  (String.utf8EncodeChar c).contains 0x9C

namespace Place

/-- Whether a character is shown at a place. -/
def shows (place : Place) (c : Char) : Bool :=
  match place with
  | outside => isKeptControl c || isBetween 0x20 0x7E c || isWide c
  | escape | escapeEnd | control => isKeptControl c
  | deviceStart | deviceParameters | deviceIntermediate | body | title => false

/-- The place that the character after an escape character leads to. -/
def afterEscape (c : Char) : Place :=
  if c = '[' then control
  else if c = ']' then title
  else if c = 'P' then deviceStart
  else if c = 'X' ∨ c = '^' ∨ c = '_' then body
  else if isBetween 0x20 0x2F c then escapeEnd
  else if isBetween 0x30 0x7E c then outside
  else escape

/-- The place that a character leads to. An escape character starts a sequence anywhere, and a
cancel or a substitute character ends one. -/
def next (place : Place) (c : Char) : Place :=
  if c = '\x1B' then escape
  else if c = '\x18' ∨ c = '\x1A' then outside
  else
    match place with
    | outside => outside
    | escape => afterEscape c
    | escapeEnd => if isBetween 0x30 0x7E c then outside else escapeEnd
    | control => if isBetween 0x40 0x7E c then outside else control
    | deviceStart =>
        if isBetween 0x20 0x2F c then deviceIntermediate
        else if isBetween 0x30 0x3F c then deviceParameters
        else if isBetween 0x40 0x7E c then body
        else deviceStart
    | deviceParameters =>
        if isBetween 0x20 0x2F c then deviceIntermediate
        else if isBetween 0x3C 0x7E c then body
        else deviceParameters
    | deviceIntermediate => if isBetween 0x30 0x7E c then body else deviceIntermediate
    | body => if endsBody c then outside else body
    | title => if c = '\x07' then outside else title

end Place

/-- What is shown of a text that starts at a place; `plain` says that the sequence of the place is
interrupted. A character that is not in ASCII ends an interrupted sequence. -/
def shownFrom (plain : Bool) (place : Place) : List Char → List Char
  | [] => []
  | c :: cs =>
      if (if plain then Place.outside else place).shows c then
        c :: shownFrom true (if isWide c then .outside else place) cs
      else shownFrom false (place.next c) cs

/-- A text without control characters and control sequences. -/
def withoutControls (text : String) : String :=
  String.ofList (shownFrom false .outside text.toList)

end BookFilter.Text
