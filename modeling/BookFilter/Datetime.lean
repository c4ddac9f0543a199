/-! # Dates and times

A day, a time of day, or both, and then possibly with an offset from universal time. They are
written as `1979-05-27`, `07:32:00.5` and `1979-05-27T07:32:00Z`. Days are not checked against the
length of their month. -/

namespace BookFilter

/-- A day of the calendar. -/
structure Date where
  year : Nat
  month : Nat
  day : Nat
  year_lt : year < 10000
  month_valid : 1 ≤ month ∧ month ≤ 12
  day_valid : 1 ≤ day ∧ day ≤ 31
deriving DecidableEq, Repr

/-- The day with these numbers, if they are in range. -/
def Date.ofNumbers? (year month day : Nat) : Option Date :=
  if h : year < 10000 ∧ (1 ≤ month ∧ month ≤ 12) ∧ 1 ≤ day ∧ day ≤ 31 then
    some ⟨year, month, day, h.1, h.2.1, h.2.2⟩
  else none

/-- A time of day; the hour after the last one counts as an hour of the day. -/
structure TimeOfDay where
  hour : Nat
  minute : Nat
  second : Nat
  nanosecond : Nat
  hour_le : hour ≤ 24
  minute_lt : minute < 60
  second_lt : second < 60
  nanosecond_lt : nanosecond < 1000000000
deriving DecidableEq, Repr

/-- The time of day with these numbers, if they are in range. -/
def TimeOfDay.ofNumbers? (hour minute second nanosecond : Nat) : Option TimeOfDay :=
  if h : hour ≤ 24 ∧ minute < 60 ∧ second < 60 ∧ nanosecond < 1000000000 then
    some ⟨hour, minute, second, nanosecond, h.1, h.2.1, h.2.2.1, h.2.2.2⟩
  else none

/-- An offset from universal time, or the mark of universal time itself. -/
inductive Offset where
  | universal
  | shift (hours : Int) (minutes : Nat)
deriving DecidableEq, Repr

/-- A day, a time of day, or both. -/
inductive Datetime where
  | day (date : Date)
  | clock (time : TimeOfDay)
  | moment (date : Date) (time : TimeOfDay) (offset : Option Offset)
deriving DecidableEq, Repr

/-- Decimal digits, filled up with zeros on the left. -/
def paddedDigits (width n : Nat) : List Char :=
  let digits := Nat.toDigits 10 n
  List.replicate (width - digits.length) '0' ++ digits

/-- A day as text. -/
def Date.render (date : Date) : List Char :=
  paddedDigits 4 date.year ++ '-' :: paddedDigits 2 date.month ++ '-' :: paddedDigits 2 date.day

/-- The digits after the point of a number of nanoseconds, without zeros at the end. -/
def fractionDigits (nanosecond : Nat) : List Char :=
  ((paddedDigits 9 nanosecond).reverse.dropWhile (· = '0')).reverse

/-- A time of day as text; a fraction of zero is not written. -/
def TimeOfDay.render (time : TimeOfDay) : List Char :=
  let fraction := if time.nanosecond = 0 then [] else '.' :: fractionDigits time.nanosecond
  paddedDigits 2 time.hour ++ ':' :: paddedDigits 2 time.minute ++ ':' ::
    paddedDigits 2 time.second ++ fraction

/-- An offset as text. Less than an hour to the west is written as if it were to the east. -/
def Offset.render : Offset → List Char
  | universal => ['Z']
  | shift hours minutes =>
      (if hours < 0 then '-' else '+') :: paddedDigits 2 hours.natAbs ++ ':' ::
        paddedDigits 2 minutes

namespace Datetime

/-- A day or time as text. -/
def render : Datetime → String
  | day date => String.ofList date.render
  | clock time => String.ofList time.render
  | moment date time offset =>
      String.ofList (date.render ++ 'T' :: time.render ++ (offset.map Offset.render).getD [])

/-- Reads from the start of a text and leaves the rest. -/
abbrev Scanner := StateT (List Char) Option

/-- The value of decimal digits. -/
def digitsValue (digits : List Char) : Nat :=
  digits.foldl (fun n c => n * 10 + (c.toNat - '0'.toNat)) 0

/-- A number of so many digits. -/
def scanNumber (width : Nat) : Scanner Nat := fun text =>
  let digits := text.take width
  if digits.length = width ∧ digits.all Char.isDigit then
    some (digitsValue digits, text.drop width)
  else none

/-- The given character. -/
def scanMark (mark : Char) : Scanner Unit
  | c :: rest => if c = mark then some ((), rest) else none
  | [] => none

/-- A day. -/
def scanDate : Scanner Date := do
  let year ← scanNumber 4
  scanMark '-'
  let month ← scanNumber 2
  scanMark '-'
  let day ← scanNumber 2
  Date.ofNumbers? year month day

/-- The nanoseconds of a fraction, if there is one; what is less than a nanosecond is dropped. -/
def scanFraction : Scanner Nat
  | '.' :: text =>
      let digits := text.takeWhile Char.isDigit
      if digits = [] then none
      else some (digitsValue ((digits ++ List.replicate 9 '0').take 9), text.dropWhile Char.isDigit)
  | text => some (0, text)

/-- A time of day. -/
def scanTime : Scanner TimeOfDay := do
  let hour ← scanNumber 2
  scanMark ':'
  let minute ← scanNumber 2
  scanMark ':'
  let second ← scanNumber 2
  let nanosecond ← scanFraction
  TimeOfDay.ofNumbers? hour minute second nanosecond

/-- The hours and minutes of an offset. -/
def scanShift (sign : Int) : Scanner Offset := do
  let hours ← scanNumber 2
  scanMark ':'
  let minutes ← scanNumber 2
  return .shift (sign * hours) minutes

/-- An offset, unless the text ends. -/
def scanOffset : Scanner (Option Offset)
  | [] => some (none, [])
  | c :: text =>
      if c = 'Z' ∨ c = 'z' then some (some .universal, text)
      else if c = '+' then (some <$> scanShift 1) text
      else if c = '-' then (some <$> scanShift (-1)) text
      else none

/-- Whether a character may stand between a day and a time of day. -/
def isSeparator (c : Char) : Bool :=
  c = 'T' || c = 't' || c = ' '

/-- A day, and a time of day if something separates one from it. -/
def scanMoment : Scanner Datetime := do
  let date ← scanDate
  match ← get with
  | c :: text =>
      if isSeparator c then do
        set text
        return .moment date (← scanTime) (← scanOffset)
      else return .day date
  | [] => return .day date

/-- The day or time that a text writes. A colon in the third place tells a time of day alone. -/
def parse? (text : List Char) : Option Datetime :=
  let scanner := if text[2]? = some ':' then clock <$> scanTime else scanMoment
  match scanner text with
  | some (value, []) => some value
  | _ => none

end Datetime

end BookFilter
