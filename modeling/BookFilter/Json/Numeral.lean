import BookFilter.Json.Input

/-! # Reading numerals

A numeral reaches as far as it can: sign, whole part without leading zeros, fraction, exponent. -/

namespace BookFilter.Numeral

/-- The value of a decimal digit. -/
def digit? (c : Char) : Option (Fin 10) :=
  if h : '0' ≤ c ∧ c ≤ '9' then
    some ⟨c.toNat - '0'.toNat, by
      have h₁ : c.toNat ≤ '9'.toNat := h.2
      have h₂ : '9'.toNat = 57 := rfl
      have h₃ : '0'.toNat = 48 := rfl
      omega⟩
  else none

/-- The digits that a text begins with, and the rest. -/
def spanDigits : Input → List (Fin 10) × Input
  | some c :: cs =>
      match digit? c with
      | some d =>
          let (ds, rest) := spanDigits cs
          (d :: ds, rest)
      | none => ([], some c :: cs)
  | cs => ([], cs)

/-- The number that digits write. -/
def ofDigits (digits : List (Fin 10)) : Nat :=
  digits.foldl (fun n d => 10 * n + d.val) 0

/-- The whole part of a numeral: a single zero, or digits that do not begin with zero. -/
def scanWhole? (input : Input) : Option (Nat × Input) :=
  match spanDigits input with
  | ([], _) => none
  | (d :: ds, rest) => if d = 0 ∧ ds ≠ [] then none else some (ofDigits (d :: ds), rest)

/-- The digits after a point, if one comes; at least one must follow it. -/
def scanFraction? : Input → Option (List (Fin 10) × Input)
  | some '.' :: cs =>
      match spanDigits cs with
      | ([], _) => none
      | (d :: ds, rest) => some (d :: ds, rest)
  | cs => some ([], cs)

/-- The digits of an exponent; at least one must come. -/
def scanPower? (negative : Bool) (input : Input) : Option (Option Int × Input) :=
  match spanDigits input with
  | ([], _) => none
  | (d :: ds, rest) =>
      let power := Int.ofNat (ofDigits (d :: ds))
      some (some (if negative then -power else power), rest)

/-- The exponent, if one comes. -/
def scanExponent? : Input → Option (Option Int × Input)
  | some c :: cs =>
      if c = 'e' ∨ c = 'E' then
        match cs with
        | some '-' :: ds => scanPower? true ds
        | some '+' :: ds => scanPower? false ds
        | ds => scanPower? false ds
      else some (none, some c :: cs)
  | cs => some (none, cs)

/-- A numeral without its sign. -/
def scanUnsigned? (negative : Bool) (input : Input) : Option (Numeral × Input) := do
  let (whole, input) ← scanWhole? input
  let (fraction, input) ← scanFraction? input
  let (exponent, input) ← scanExponent? input
  return (⟨negative, whole, fraction, exponent⟩, input)

/-- A numeral. -/
def scan? : Input → Option (Numeral × Input)
  | some '-' :: cs => scanUnsigned? true cs
  | cs => scanUnsigned? false cs

theorem spanDigits_length (input : Input) :
    (spanDigits input).1.length + (spanDigits input).2.length = input.length := by
  fun_induction spanDigits input with
  | case1 c cs d h ih => simp_all; omega
  | case2 => simp
  | case3 => simp

theorem scanWhole?_length {input : Input} {n : Nat} {rest : Input}
    (h : scanWhole? input = some (n, rest)) : rest.length < input.length := by
  have hlen := spanDigits_length input
  unfold scanWhole? at h
  split at h
  · cases h
  · next d ds rest' hspan =>
      rw [hspan] at hlen
      split at h
      · cases h
      · cases h
        simp only [List.length_cons] at hlen
        omega

theorem scanFraction?_length {input : Input} {digits : List (Fin 10)} {rest : Input}
    (h : scanFraction? input = some (digits, rest)) : rest.length ≤ input.length := by
  unfold scanFraction? at h
  split at h
  · next cs =>
      have hlen := spanDigits_length cs
      split at h
      · cases h
      · next d ds rest' hspan =>
          rw [hspan] at hlen
          cases h
          simp only [List.length_cons] at hlen ⊢
          omega
  · cases h
    exact Nat.le_refl _

theorem scanPower?_length {negative : Bool} {input : Input} {power : Option Int} {rest : Input}
    (h : scanPower? negative input = some (power, rest)) : rest.length ≤ input.length := by
  have hlen := spanDigits_length input
  unfold scanPower? at h
  split at h
  · cases h
  · next d ds rest' hspan =>
      rw [hspan] at hlen
      cases h
      simp only [List.length_cons] at hlen
      omega

theorem scanExponent?_length {input : Input} {power : Option Int} {rest : Input}
    (h : scanExponent? input = some (power, rest)) : rest.length ≤ input.length := by
  unfold scanExponent? at h
  split at h
  · split at h
    · split at h
      · have := scanPower?_length h
        simp only [List.length_cons]
        omega
      · have := scanPower?_length h
        simp only [List.length_cons]
        omega
      · have := scanPower?_length h
        simp only [List.length_cons]
        omega
    · cases h
      exact Nat.le_refl _
  · cases h
    exact Nat.le_refl _

theorem scanUnsigned?_length {negative : Bool} {input : Input} {value : Numeral} {rest : Input}
    (h : scanUnsigned? negative input = some (value, rest)) : rest.length < input.length := by
  simp only [scanUnsigned?, Option.bind_eq_bind, Option.pure_def, Option.bind_eq_some_iff,
    Option.some.injEq, Prod.exists, Prod.mk.injEq] at h
  obtain ⟨w, r₁, h₁, f, r₂, h₂, e, r₃, h₃, -, rfl⟩ := h
  have := scanWhole?_length h₁
  have := scanFraction?_length h₂
  have := scanExponent?_length h₃
  omega

theorem scan?_length {input : Input} {value : Numeral} {rest : Input}
    (h : scan? input = some (value, rest)) : rest.length < input.length := by
  unfold scan? at h
  split at h
  · have := scanUnsigned?_length h
    simp only [List.length_cons]
    omega
  · exact scanUnsigned?_length h

end BookFilter.Numeral
