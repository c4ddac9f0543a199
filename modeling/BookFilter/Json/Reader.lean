import BookFilter.Json.Token

/-! # Reading JSON

Tokens are put together from the left with a stack of the arrays and objects that are still open.
Where a token does not fit, a `broken` part takes its place and everything open is closed. -/

namespace BookFilter.Json

/-- An array or object that is still open, its latest item first. -/
inductive Open where
  | array (items : List Json)
  /-- The value of the key comes next. -/
  | object (fields : List Field) (key : Option String)

/-- Puts the last value into an open one and closes it. -/
def Open.close (last : Json) : Open → Json
  | .array items => .array (items.reverse ++ [last])
  | .object fields key => .object (fields.reverse ++ [⟨key, last⟩])

/-- Closes everything open around a value. -/
def closeAll (value : Json) (opened : List Open) : Json :=
  opened.foldl Open.close value

/-- Closes everything open after a value that is followed by something that does not fit. -/
def breakOff (value : Json) : List Open → Json
  | [] => value
  | .array items :: opened => closeAll (.array (items.reverse ++ [value, .broken])) opened
  | .object fields key :: opened =>
      closeAll (.object (fields.reverse ++ [⟨key, value⟩, ⟨none, .broken⟩])) opened

mutual

/-- Reads on where a value must come. -/
def readValue (opened : List Open) : List Token → Json × List Token
  | .null :: rest => readAfter .null opened rest
  | .bool value :: rest => readAfter (.bool value) opened rest
  | .number value :: rest => readAfter (.number value) opened rest
  | .string text :: rest => readAfter (.string text) opened rest
  | .openArray :: .closeArray :: rest => readAfter (.array []) opened rest
  | .openArray :: rest => readValue (.array [] :: opened) rest
  | .openObject :: .closeObject :: rest => readAfter (.object []) opened rest
  | .openObject :: rest => readKey [] opened rest
  | rest => (closeAll .broken opened, rest)

/-- Reads on where a key of an object must come. -/
def readKey (fields : List Field) (opened : List Open) : List Token → Json × List Token
  | .string key :: .colon :: rest => readValue (.object fields key :: opened) rest
  | rest => (closeAll (.object (fields.reverse ++ [⟨none, .broken⟩])) opened, rest)

/-- Reads on after a value. -/
def readAfter (value : Json) : List Open → List Token → Json × List Token
  | [], rest => (value, rest)
  | .array items :: opened, .comma :: rest => readValue (.array (value :: items) :: opened) rest
  | .array items :: opened, .closeArray :: rest =>
      readAfter (.array (items.reverse ++ [value])) opened rest
  | .object fields key :: opened, .comma :: rest => readKey (⟨key, value⟩ :: fields) opened rest
  | .object fields key :: opened, .closeObject :: rest =>
      readAfter (.object (fields.reverse ++ [⟨key, value⟩])) opened rest
  | opened, rest => (breakOff value opened, rest)

end

/-- Reads one value from the start of a text; what comes after it is left as tokens. -/
def read (input : Input) : Json × List Token :=
  readValue [] (Token.scan input)

/-- The value of a text that is JSON as a whole. -/
def parse? (input : Input) : Option Json :=
  match read input with
  | (value, []) => if value.isSound then some value else none
  | (_, _ :: _) => none

end BookFilter.Json
