/-! # JSON values

Values as they stand in a text. Numbers keep their decimal form. A string with an escape for half
a surrogate pair, or with bytes that are not UTF-8, is JSON by its grammar but is no text. Where a
text stops being JSON, the value in the making holds a `broken` part. -/

namespace BookFilter

/-- A number in decimal form. -/
structure Numeral where
  negative : Bool
  whole : Nat
  /-- The digits after the point; there is no point if there are none. -/
  fraction : List (Fin 10)
  /-- The power of ten, if one is written. -/
  exponent : Option Int
deriving DecidableEq, Repr

/-- The numeral of a natural number. -/
def Numeral.ofNat (n : Nat) : Numeral :=
  ⟨false, n, [], none⟩

/-- The natural number that a numeral writes, if it has neither sign nor point nor exponent. -/
def Numeral.toNat? : Numeral → Option Nat
  | ⟨false, n, [], none⟩ => some n
  | _ => none

mutual

/-- A JSON value. -/
inductive Json where
  | null
  | bool (value : Bool)
  | number (value : Numeral)
  /-- A string; `none` if it is no text. -/
  | string (text : Option String)
  | array (items : List Json)
  | object (fields : List Field)
  /-- The place where a text stops being JSON. -/
  | broken

/-- A key and its value. -/
structure Field where
  key : Option String
  value : Json

end

namespace Json

/-- A string that is a text. -/
def text (value : String) : Json :=
  .string (some value)

/-- An object whose keys are texts. -/
def record (fields : List (String × Json)) : Json :=
  .object (fields.map fun (key, value) => ⟨some key, value⟩)

end Json

mutual

/-- Whether a value is JSON throughout. -/
def Json.isSound : Json → Bool
  | .broken => false
  | .array items => soundItems items
  | .object fields => soundFields fields
  | .null | .bool _ | .number _ | .string _ => true

/-- Whether the value of a field is JSON throughout. -/
def Field.isSound : Field → Bool
  | ⟨_, value⟩ => value.isSound

/-- Whether all items are JSON throughout. -/
def soundItems : List Json → Bool
  | [] => true
  | item :: items => item.isSound && soundItems items

/-- Whether the values of all fields are JSON throughout. -/
def soundFields : List Field → Bool
  | [] => true
  | field :: fields => field.isSound && soundFields fields

end

end BookFilter
