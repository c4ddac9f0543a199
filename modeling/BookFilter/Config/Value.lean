import BookFilter.Config.Number
import BookFilter.Datetime

/-! # Configuration values

The values that a configuration is made of. They come from JSON values: there is no `null` among
them, no key of a table is repeated, and integers have 64 bits with a sign. JSON has no dates and
times of its own; one is written as an object with a key that is set aside for them. -/

namespace BookFilter

/-- A value in a configuration. -/
inductive ConfigValue where
  | string (text : String)
  | integer (value : Int)
  | float (negative : Bool) (magnitude : Binary64)
  | boolean (value : Bool)
  | datetime (value : Datetime)
  | array (items : List ConfigValue)
  | table (entries : List (String × ConfigValue))

/-- The configuration value that a numeral writes. Without point and exponent it is an integer; one
above all unsigned or below all signed 64-bit integers becomes a float, as does a negative zero, and
an unsigned one that is no signed one is refused. -/
def Numeral.toConfigValue? (value : Numeral) : Option ConfigValue :=
  let asFloat := value.toBinary64?.map (.float value.negative)
  if value.fraction ≠ [] ∨ value.exponent ≠ none then asFloat
  else if value.negative then
    if 0 < value.whole ∧ value.whole ≤ maxNegative then some (.integer (-value.whole))
    else asFloat
  else if value.whole < maxNegative then some (.integer value.whole)
  else if value.whole ≤ maxUnsigned then none
  else asFloat

namespace ConfigValue

/-- The key that makes an object a day or time if it is the first one. -/
def datetimeKey : String := "$__toml_private_datetime"

/-- Whether fields stand for a day or time. -/
def isDatetime : List Field → Bool
  | ⟨key, _⟩ :: _ => key = some datetimeKey
  | [] => false

/-- The day or time that fields stand for; there is nothing beside it. -/
def datetimeOf? : List Field → Option Datetime
  | [⟨_, .string (some text)⟩] => Datetime.parse? text.toList
  | _ => none

/-- The configuration value of a JSON value in which arrays and objects nest at most `room` deep. -/
def ofJson? : (room : Nat) → Json → Option ConfigValue
  | _, .bool value => some (.boolean value)
  | _, .number value => value.toConfigValue?
  | _, .string text => text.map .string
  | room + 1, .array items => (items.mapM (ofJson? room)).map .array
  | room + 1, .object fields =>
      if isDatetime fields then (datetimeOf? fields).map .datetime
      else do
        let entries ← fields.mapM fun field => do
          return (← field.key, ← ofJson? room field.value)
        if (entries.map Prod.fst).Nodup then some (.table entries) else none
  | _, _ => none

/-- The value of a key, if the value is a table with that key. -/
def get? (key : String) : ConfigValue → Option ConfigValue
  | .table entries => entries.lookup key
  | _ => none

/-- The value at the end of a path of keys. -/
def at? : (path : List String) → ConfigValue → Option ConfigValue
  | [], value => some value
  | key :: path, value => (value.get? key).bind (at? path)

/-- A value less what stands at the end of a path of keys. -/
def remove : (path : List String) → ConfigValue → ConfigValue
  | [key], .table entries => .table (entries.filter fun entry => entry.1 ≠ key)
  | key :: path, .table entries =>
      .table (entries.map fun entry =>
        (entry.1, if entry.1 = key then remove path entry.2 else entry.2))
  | _, value => value

/-- What is asked of the value of a key. -/
inductive Shape where
  | text
  | flag
  | texts
  | oneOf (choices : List String)

/-- The text of a value; that of a day or time is its written form. -/
def text? : ConfigValue → Option String
  | .string text => some text
  | .datetime value => some value.render
  | _ => none

/-- Whether the value is of the shape. -/
def hasShape : ConfigValue → Shape → Bool
  | value, .text => value.text?.isSome
  | .boolean _, .flag => true
  | .array items, .texts => items.all (·.text?.isSome)
  | .string text, .oneOf choices => choices.contains text
  | _, _ => false

/-- Keys with the shapes of their values, in an order. -/
abbrev SectionShape := List (String × Shape)

/-- Whether a value is a section of the shape: a table in which each of the keys that is there has a
value of its shape, or an array of values of the first so many shapes. -/
def isSection (value : ConfigValue) (shape : SectionShape) : Bool :=
  match value with
  | .table entries =>
      shape.all fun (key, shape) => (entries.lookup key).all (·.hasShape shape)
  | .array items =>
      items.length ≤ shape.length &&
        (items.zip shape).all fun (item, _, shape) => item.hasShape shape
  | _ => false

end ConfigValue

end BookFilter
