import BookFilter.Json

/-! # Printing JSON

Values are printed without blanks. In strings the two marks with a meaning and the control
characters are escaped; everything else stands for itself. -/

namespace BookFilter

/-- A character inside a string. -/
def Quotation.escape (c : Char) : List Char :=
  match c with
  | '"' => ['\\', '"']
  | '\\' => ['\\', '\\']
  | '\x08' => ['\\', 'b']
  | '\t' => ['\\', 't']
  | '\n' => ['\\', 'n']
  | '\x0c' => ['\\', 'f']
  | '\r' => ['\\', 'r']
  | c =>
      if c < ' ' then
        ['\\', 'u', '0', '0', Nat.digitChar (c.toNat / 16), Nat.digitChar (c.toNat % 16)]
      else [c]

/-- A text as a string. -/
def Quotation.printText (text : List Char) : List Char :=
  '"' :: text.flatMap Quotation.escape ++ ['"']

/-- A numeral in its shortest spelling. -/
def Numeral.print (value : Numeral) : List Char :=
  (if value.negative then ['-'] else []) ++ Nat.toDigits 10 value.whole ++
    (if value.fraction = [] then []
      else '.' :: value.fraction.map fun d => Nat.digitChar d.val) ++
    match value.exponent with
    | none => []
    | some (.ofNat n) => 'e' :: Nat.toDigits 10 n
    | some (.negSucc n) => 'e' :: '-' :: Nat.toDigits 10 (n + 1)

/-- A string; one that is no text is printed as half a surrogate pair. -/
def Quotation.print : Option String → List Char
  | some text => Quotation.printText text.toList
  | none => "\"\\ud800\"".toList

mutual

/-- A value without blanks. A broken part is left out. -/
def Json.print : Json → List Char
  | .null => "null".toList
  | .bool true => "true".toList
  | .bool false => "false".toList
  | .number value => value.print
  | .string text => Quotation.print text
  | .array items => '[' :: Json.printItems items ++ [']']
  | .object fields => '\x7b' :: Json.printFields fields ++ ['\x7d']
  | .broken => []

/-- A key and its value. -/
def Field.print : Field → List Char
  | ⟨key, value⟩ => Quotation.print key ++ ':' :: value.print

/-- Items with commas between them. -/
def Json.printItems : List Json → List Char
  | [] => []
  | [item] => item.print
  | item :: items => item.print ++ ',' :: Json.printItems items

/-- Fields with commas between them. -/
def Json.printFields : List Field → List Char
  | [] => []
  | [field] => field.print
  | field :: fields => field.print ++ ',' :: Json.printFields fields

end

/-- A value as text. -/
def Json.render (value : Json) : String :=
  String.ofList value.print

end BookFilter
