import BookFilter.Json

/-! # Records in JSON

A record is an object with known keys or an array of its values in order. Values are read in the
order in which they stand, so that of several faults the first one counts. Arrays and objects nest
no deeper than there is room for, but what stands under an unknown key is only looked through. -/

namespace BookFilter

/-- Why a value cannot be read. -/
inductive ReadFault where
  /-- Something in it is not as it has to be. -/
  | malformed
  /-- There is a book configuration in it that is no table. -/
  | configNotTable
deriving DecidableEq, Repr

/-- The outcome of reading a value. -/
abbrev Reading := Except ReadFault

namespace Json

/-- A text. -/
def toText : Json → Reading String
  | .string (some text) => .ok text
  | _ => .error .malformed

/-- Nothing but `null`. -/
def toNull : Json → Reading Unit
  | .null => .ok ()
  | _ => .error .malformed

/-- A value that may be `null`. -/
def orNull {α : Type} (read : Json → Reading α) : Json → Reading (Option α)
  | .null => .ok none
  | value => some <$> read value

/-- The items of an array, if there is room for it. -/
def items (room : Nat) : Json → Reading (List Json)
  | .array items => if room = 0 then .error .malformed else .ok items
  | _ => .error .malformed

/-- Reads the fields of an object into a state. A known key is read at most once; the value of an
unknown key only has to be JSON. -/
def readFields {σ : Type} (keys : List String) (read : String → Json → σ → Reading σ) :
    List Field → List String → σ → Reading σ
  | [], _, state => .ok state
  | ⟨none, _⟩ :: _, _, _ => .error .malformed
  | ⟨some key, value⟩ :: fields, seen, state =>
      if keys.contains key then
        if seen.contains key then .error .malformed
        else do readFields keys read fields (key :: seen) (← read key value state)
      else if value.isSound then readFields keys read fields seen state
      else .error .malformed

/-- Reads values in the order of the keys into a state. -/
def readItems {σ : Type} (read : String → Json → σ → Reading σ) :
    List String → List Json → σ → Reading σ
  | [], [], state => .ok state
  | key :: keys, value :: values, state => do
      readItems read keys values (← read key value state)
  | _, _, _ => .error .malformed

/-- Reads a record into a state, if there is room for it. -/
def readRecord {σ : Type} (room : Nat) (keys : List String)
    (read : String → Json → σ → Reading σ) (state : σ) : Json → Reading σ
  | .object fields =>
      if room = 0 then .error .malformed else readFields keys read fields [] state
  | .array items =>
      if room = 0 then .error .malformed else readItems read keys items state
  | _ => .error .malformed

end Json

end BookFilter
