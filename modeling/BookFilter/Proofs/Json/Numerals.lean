import BookFilter.Json.Numeral
import BookFilter.Json.Printer

/-!
# Numerals read back

A printed numeral is read back in full, whatever comes after it, unless that could belong to the
numeral itself. Every numeral has such a printed form: sign, fraction and exponent are kept as they
are.
-/

namespace BookFilter.Numeral

/-- The characters of digits. -/
def digitChars (digits : List (Fin 10)) : List Char :=
  digits.map fun d => Nat.digitChar d.val

/-- The input does not begin with a digit. -/
def NoDigit (rest : Input) : Prop :=
  ∀ c cs, rest = some c :: cs → digit? c = none

/-- The input does not begin with anything that could belong to a numeral before it. -/
def IsOver (rest : Input) : Prop :=
  ∀ c cs, rest = some c :: cs → digit? c = none ∧ c ≠ '.' ∧ c ≠ 'e' ∧ c ≠ 'E'

theorem IsOver.noDigit {rest : Input} (h : IsOver rest) : NoDigit rest :=
  fun c cs heq => (h c cs heq).1

theorem isOver_nil : IsOver [] := by
  intro c cs h
  cases h

/-- The marks of JSON end a numeral. -/
theorem isOver_cons {c : Char} {rest : Input}
    (h : digit? c = none ∧ c ≠ '.' ∧ c ≠ 'e' ∧ c ≠ 'E') : IsOver (some c :: rest) := by
  intro d cs heq
  cases heq
  exact h

theorem digit?_digitChar : ∀ d : Fin 10, digit? (Nat.digitChar d.val) = some d := by
  decide

theorem spanDigits_append (digits : List (Fin 10)) {rest : Input} (h : NoDigit rest) :
    spanDigits ((digitChars digits).map some ++ rest) = (digits, rest) := by
  induction digits with
  | nil =>
      cases rest with
      | nil => rfl
      | cons first rest =>
          cases first with
          | none => rfl
          | some c => simp [digitChars, spanDigits, h c rest rfl]
  | cons d digits ih =>
      rw [digitChars, List.map_cons, List.map_cons, List.cons_append, spanDigits,
        digit?_digitChar]
      rw [digitChars] at ih
      simp only [ih]

theorem ofDigits_append (digits : List (Fin 10)) (d : Fin 10) :
    ofDigits (digits ++ [d]) = 10 * ofDigits digits + d.val := by
  rw [ofDigits, List.foldl_append]
  rfl

/-- A number is written by digits that do not begin with zero unless there is only one. -/
theorem exists_toDigits (n : Nat) :
    ∃ d ds, Nat.toDigits 10 n = digitChars (d :: ds) ∧ ofDigits (d :: ds) = n ∧
      (d = 0 → ds = []) := by
  induction n using Nat.strongRecOn with
  | _ n ih =>
      by_cases hn : n < 10
      · refine ⟨⟨n, hn⟩, [], Nat.toDigits_of_lt_base hn, ?_, fun _ => rfl⟩
        simp [ofDigits]
      · obtain ⟨d, ds, hdigits, hvalue, hzero⟩ := ih (n / 10) (by omega)
        have hlast : n % 10 < 10 := Nat.mod_lt n (by omega)
        refine ⟨d, ds ++ [⟨n % 10, hlast⟩], ?_, ?_, ?_⟩
        · rw [Nat.toDigits_of_base_le (by omega) (by omega), hdigits]
          simp [digitChars]
        · rw [← List.cons_append, ofDigits_append, hvalue]
          exact Nat.div_add_mod n 10
        · intro hd
          rw [hd, hzero hd] at hvalue
          have hsmall : n / 10 = 0 := hvalue.symm
          omega

theorem scanWhole?_toDigits (n : Nat) {rest : Input} (h : NoDigit rest) :
    scanWhole? ((Nat.toDigits 10 n).map some ++ rest) = some (n, rest) := by
  obtain ⟨d, ds, hdigits, hvalue, hzero⟩ := exists_toDigits n
  rw [scanWhole?, hdigits, spanDigits_append _ h]
  have hlead : ¬ (d = 0 ∧ ds ≠ []) := by
    rintro ⟨hd, hds⟩
    exact hds (hzero hd)
  simp only [if_neg hlead, hvalue]

theorem scanPower?_toDigits (negative : Bool) (n : Nat) {rest : Input} (h : NoDigit rest) :
    scanPower? negative ((Nat.toDigits 10 n).map some ++ rest) =
      some (some (if negative then -Int.ofNat n else Int.ofNat n), rest) := by
  obtain ⟨d, ds, hdigits, hvalue, -⟩ := exists_toDigits n
  rw [scanPower?, hdigits, spanDigits_append _ h]
  simp only [hvalue]

/-- The fraction as it is printed. -/
def printFraction (fraction : List (Fin 10)) : List Char :=
  if fraction = [] then [] else '.' :: digitChars fraction

/-- The exponent as it is printed. -/
def printExponent : Option Int → List Char
  | none => []
  | some (.ofNat n) => 'e' :: Nat.toDigits 10 n
  | some (.negSucc n) => 'e' :: '-' :: Nat.toDigits 10 (n + 1)

theorem print_eq (value : Numeral) :
    value.print = (if value.negative then ['-'] else []) ++ (Nat.toDigits 10 value.whole ++
      (printFraction value.fraction ++ printExponent value.exponent)) := by
  obtain ⟨negative, whole, fraction, exponent⟩ := value
  rw [print, List.append_assoc, List.append_assoc]
  rcases exponent with _ | (n | n) <;> rfl

theorem digitChar_ne_sign : ∀ d : Fin 10,
    Nat.digitChar d.val ≠ '-' ∧ Nat.digitChar d.val ≠ '+' := by
  decide

/-- A printed number begins with a digit. -/
theorem exists_toDigits_cons (n : Nat) :
    ∃ (d : Fin 10) (cs : List Char), Nat.toDigits 10 n = Nat.digitChar d.val :: cs := by
  obtain ⟨d, ds, hdigits, -⟩ := exists_toDigits n
  exact ⟨d, digitChars ds, hdigits⟩

theorem scanFraction?_print (fraction : List (Fin 10)) {rest : Input} (h : NoDigit rest)
    (hpoint : ∀ cs, rest ≠ some '.' :: cs) :
    scanFraction? ((printFraction fraction).map some ++ rest) = some (fraction, rest) := by
  cases fraction with
  | nil =>
      change scanFraction? rest = some ([], rest)
      unfold scanFraction?
      split
      · next cs => exact absurd rfl (hpoint cs)
      · rfl
  | cons d ds =>
      change scanFraction? (some '.' :: ((digitChars (d :: ds)).map some ++ rest)) = _
      rw [scanFraction?, spanDigits_append _ h]

theorem scanExponent?_print (exponent : Option Int) {rest : Input} (h : IsOver rest) :
    scanExponent? ((printExponent exponent).map some ++ rest) = some (exponent, rest) := by
  match exponent with
  | none =>
      change scanExponent? rest = some (none, rest)
      unfold scanExponent?
      split
      · next c cs =>
          obtain ⟨-, -, he, hE⟩ := h c cs rfl
          rw [if_neg (by simp [he, hE])]
      · rfl
  | some (.ofNat n) =>
      obtain ⟨d, cs, hdigits⟩ := exists_toDigits_cons n
      have hpower := scanPower?_toDigits false n h.noDigit
      obtain ⟨hminus, hplus⟩ := digitChar_ne_sign d
      rw [printExponent, hdigits] at *
      simp only [List.map_cons, List.cons_append, scanExponent?, true_or, if_true]
      split
      · next heq => exact absurd (Option.some.inj (List.cons.inj heq).1) hminus
      · next heq => exact absurd (Option.some.inj (List.cons.inj heq).1) hplus
      · exact hpower
  | some (.negSucc n) =>
      exact scanPower?_toDigits true (n + 1) h.noDigit

/-- After the exponent nothing can belong to the fraction. -/
theorem fraction_over (exponent : Option Int) {rest : Input} (h : IsOver rest) :
    NoDigit ((printExponent exponent).map some ++ rest) ∧
      ∀ cs, (printExponent exponent).map some ++ rest ≠ some '.' :: cs := by
  match exponent with
  | none =>
      refine ⟨h.noDigit, ?_⟩
      intro cs heq
      exact (h '.' cs heq).2.1 rfl
  | some (.ofNat n) | some (.negSucc n) =>
      constructor
      · intro c cs heq
        cases heq
        decide
      · intro cs heq
        cases heq

theorem scanUnsigned?_print (negative : Bool) (whole : Nat) (fraction : List (Fin 10))
    (exponent : Option Int) {rest : Input} (h : IsOver rest) :
    scanUnsigned? negative ((Nat.toDigits 10 whole ++
        (printFraction fraction ++ printExponent exponent)).map some ++ rest) =
      some (⟨negative, whole, fraction, exponent⟩, rest) := by
  have hover := fraction_over exponent h
  have hwhole : NoDigit ((printFraction fraction).map some ++
      ((printExponent exponent).map some ++ rest)) := by
    cases fraction with
    | nil => exact hover.1
    | cons d ds =>
        intro c cs heq
        cases heq
        decide
  rw [List.map_append, List.map_append, List.append_assoc, List.append_assoc, scanUnsigned?,
    scanWhole?_toDigits whole hwhole]
  simp only [Option.bind_eq_bind, Option.bind_some, scanFraction?_print fraction hover.1 hover.2,
    scanExponent?_print exponent h]
  rfl

/-- A printed numeral is read back. -/
theorem scan?_print (value : Numeral) {rest : Input} (h : IsOver rest) :
    scan? (value.print.map some ++ rest) = some (value, rest) := by
  obtain ⟨negative, whole, fraction, exponent⟩ := value
  have hread := scanUnsigned?_print negative whole fraction exponent h
  rw [print_eq]
  cases negative with
  | true => exact hread
  | false =>
      obtain ⟨d, cs, hdigits⟩ := exists_toDigits_cons whole
      have hminus := (digitChar_ne_sign d).1
      change scan? ((Nat.toDigits 10 whole ++ _).map some ++ rest) = _
      rw [hdigits] at hread ⊢
      unfold scan?
      split
      · next heq => exact absurd (Option.some.inj (List.cons.inj heq).1) hminus
      · exact hread

end BookFilter.Numeral
