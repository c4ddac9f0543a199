import BookFilter.Binary64
import BookFilter.Json

/-! # Numbers in configurations

The floating point number that a numeral writes. It is computed from the leading digits that fit
into 64 bits, with one rounding for them and one for each scaling by a power of ten, so it need not
be the nearest number to a long numeral. -/

namespace BookFilter.Numeral

/-- The largest natural number with 64 bits. -/
def maxUnsigned : Nat := 0xFFFFFFFFFFFFFFFF

/-- The largest magnitude of a negative integer with 64 bits. -/
def maxNegative : Nat := 0x8000000000000000

/-- The leading digits of a number that fit into 64 bits, and how many digits follow them. -/
def leadingDigits (n : Nat) : Nat × Nat :=
  if n ≤ maxUnsigned then (n, 0)
  else
    let (leading, dropped) := leadingDigits (n / 10)
    (leading, dropped + 1)
termination_by n
decreasing_by
  simp only [maxUnsigned] at *
  omega

/-- Appends digits to a number as long as it fits into 64 bits; gives back how many were
appended. -/
def appendDigits : Nat → List (Fin 10) → Nat × Nat
  | n, [] => (n, 0)
  | n, d :: ds =>
      if maxUnsigned < n * 10 + d.val then (n, 0)
      else
        let (m, count) := appendDigits (n * 10 + d.val) ds
        (m, count + 1)

/-- Divides by a power of ten, with a rounding step after every 308 places. -/
def shiftDown (x : Binary64) (places : Nat) : Option Binary64 :=
  if x.mantissa = 0 then some x
  else if places ≤ 308 then do
    x.div (← Binary64.powerOfTen places)
  else do
    shiftDown (← x.div (← Binary64.powerOfTen 308)) (places - 308)
termination_by places
decreasing_by omega

/-- Multiplies by a power of ten, if the product is in range. -/
def shiftUp (x : Binary64) (places : Nat) : Option Binary64 :=
  if x.mantissa = 0 then some x
  else if places ≤ 308 then do x.mul (← Binary64.powerOfTen places)
  else none

/-- The floating point number that a numeral writes, less its sign: the leading digits that fit into
64 bits are rounded, then scaled with another rounding. There is none if it is out of range. -/
def toBinary64? (value : Numeral) : Option Binary64 := do
  let (leading, dropped) := leadingDigits value.whole
  let (significand, appended) := appendDigits leading value.fraction
  let places : Int := value.exponent.getD 0 + dropped - appended
  let x ← Binary64.ofRatio significand 1
  match places with
  | .ofNat up => shiftUp x up
  | .negSucc down => shiftDown x (down + 1)

end BookFilter.Numeral
