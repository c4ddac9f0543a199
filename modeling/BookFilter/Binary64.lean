/-! # Floating point numbers

Magnitudes of IEEE binary64 numbers in exact arithmetic: rounding a quotient to the nearest one,
products and quotients of two of them, and the shortest decimal that rounds to one. -/

namespace BookFilter

/-- The number `mantissa * 2 ^ exponent`. The mantissa has at most 53 bits, and 53 exactly unless
the exponent is the least one, `-1074`. -/
structure Binary64 where
  mantissa : Nat
  exponent : Int
deriving DecidableEq, Repr

/-- The nearest natural number to a quotient; a half goes to the even neighbour. -/
def roundQuotient (num den : Nat) : Nat :=
  let low := num / den
  let twice := 2 * (num % den)
  if twice < den ∨ (twice = den ∧ low % 2 = 0) then low else low + 1

namespace Binary64

/-- Zero. -/
def zero : Binary64 := ⟨0, -1074⟩

/-- The least mantissa with 53 bits. -/
def leastFull : Nat := 0x10000000000000

/-- The number as a quotient. -/
def toRatio (x : Binary64) : Nat × Nat :=
  match x.exponent with
  | .ofNat e => (x.mantissa * Nat.pow 2 e, 1)
  | .negSucc e => (x.mantissa, Nat.pow 2 (e + 1))

/-- The exponent for a quotient from `2 ^ log` up to the next power of two: the mantissa gets 53
bits, or fewer at the least exponent. -/
def exponentFor (log : Int) : Int :=
  max (log - 52) (-1074)

/-- The nearest number to a quotient with this exponent. -/
def roundAt (exponent : Int) (num den : Nat) : Nat :=
  match exponent with
  | .ofNat e => roundQuotient num (den * Nat.pow 2 e)
  | .negSucc e => roundQuotient (num * Nat.pow 2 (e + 1)) den

/-- The number nearest to a quotient, if it is in range. -/
def ofRatio (num den : Nat) : Option Binary64 :=
  if num = 0 then some zero
  else
    -- the quotient lies between `2 ^ (near - 1)` and `2 ^ (near + 1)`
    let near : Int := num.log2 - den.log2
    let log :=
      if num * Nat.pow 2 (-near).toNat < den * Nat.pow 2 near.toNat then near - 1 else near
    let exponent := exponentFor log
    let mantissa := roundAt exponent num den
    let x : Binary64 :=
      if mantissa = 2 * leastFull then ⟨leastFull, exponent + 1⟩ else ⟨mantissa, exponent⟩
    if x.exponent ≤ 971 then some x else none

/-- The number nearest to a power of ten. -/
def powerOfTen (k : Nat) : Option Binary64 :=
  ofRatio (Nat.pow 10 k) 1

/-- The rounded product. -/
def mul (x y : Binary64) : Option Binary64 :=
  ofRatio (x.toRatio.1 * y.toRatio.1) (x.toRatio.2 * y.toRatio.2)

/-- The rounded quotient. -/
def div (x y : Binary64) : Option Binary64 :=
  ofRatio (x.toRatio.1 * y.toRatio.2) (x.toRatio.2 * y.toRatio.1)

/-- The ends of the interval of reals that round to the number, as multiples of one power of two,
and that power. -/
def interval (x : Binary64) : Nat × Nat × Int :=
  if x.mantissa = leastFull ∧ x.exponent ≠ -1074 then
    (4 * x.mantissa - 1, 4 * x.mantissa + 2, x.exponent - 2)
  else (2 * x.mantissa - 1, 2 * x.mantissa + 1, x.exponent - 1)

/-- Whether `digits * 10 ^ power` rounds to the number. -/
def roundsFrom (x : Binary64) (digits : Nat) (power : Int) : Bool :=
  let (low, high, e) := x.interval
  let value := digits * Nat.pow 10 power.toNat * Nat.pow 2 (-e).toNat
  let unit := Nat.pow 10 (-power).toNat * Nat.pow 2 e.toNat
  if x.mantissa % 2 = 0 then low * unit ≤ value && value ≤ high * unit
  else low * unit < value && value < high * unit

/-- The digits of the multiple of a power of ten that rounds to the number, if there is one: of two,
the nearer, and the greater if both are equally near. -/
def digitsAt? (x : Binary64) (power : Int) : Option Nat :=
  let (num, den) := x.toRatio
  let value := num * Nat.pow 10 (-power).toNat
  let unit := den * Nat.pow 10 power.toNat
  let low := value / unit
  let nearer := if 2 * (value % unit) < unit then [low, low + 1] else [low + 1, low]
  nearer.find? fun digits => digits ≠ 0 && x.roundsFrom digits power

/-- The shortest decimal that rounds to the number: digits and a power of ten. -/
def shortest (x : Binary64) : Nat × Int :=
  if x.mantissa = 0 then (0, 0)
  else
    ((List.range 700).findSome? fun (i : Nat) =>
      let power : Int := 309 - i
      (x.digitsAt? power).map fun digits => (digits, power)).getD (0, 0)

/-- The shortest decimal in positional notation, with at least one digit after the point. -/
def positional (x : Binary64) : String :=
  let (digits, power) := x.shortest
  let text := Nat.toDigits 10 digits
  match power with
  | .ofNat k => String.ofList (text ++ List.replicate k '0') ++ ".0"
  | .negSucc k =>
      let padded := List.replicate (k + 2 - text.length) '0' ++ text
      let point := padded.length - (k + 1)
      String.ofList (padded.take point ++ '.' :: padded.drop point)

end Binary64

end BookFilter
