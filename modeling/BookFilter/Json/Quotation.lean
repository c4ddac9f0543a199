import BookFilter.Json.Input

/-! # Reading strings

A string is read up to its closing mark as parts; the parts make up a text unless one of them is
half a surrogate pair or a stray byte. -/

namespace BookFilter.Quotation

/-- The value of a hexadecimal digit. -/
def hexDigit? (c : Char) : Option Nat :=
  if '0' ≤ c ∧ c ≤ '9' then some (c.toNat - '0'.toNat)
  else if 'a' ≤ c ∧ c ≤ 'f' then some (c.toNat - 'a'.toNat + 10)
  else if 'A' ≤ c ∧ c ≤ 'F' then some (c.toNat - 'A'.toNat + 10)
  else none

/-- The number that four hexadecimal digits write. -/
def hexUnit? : Option Char → Option Char → Option Char → Option Char → Option Nat
  | some a, some b, some c, some d => do
      let a ← hexDigit? a
      let b ← hexDigit? b
      let c ← hexDigit? c
      let d ← hexDigit? d
      return ((a * 16 + b) * 16 + c) * 16 + d
  | _, _, _, _ => none

/-- A part of a string: a character, a code unit written by number, or a stray byte. -/
inductive Part where
  | char (c : Char)
  | unit (code : Nat)
  | stray
deriving DecidableEq, Repr

/-- The character that an escape other than by number stands for. -/
def escapedChar? : Char → Option Char
  | '"' => some '"'
  | '\\' => some '\\'
  | '/' => some '/'
  | 'b' => some '\x08'
  | 'f' => some '\x0c'
  | 'n' => some '\n'
  | 'r' => some '\r'
  | 't' => some '\t'
  | _ => none

/-- The parts of a string up to its closing mark, and the rest. Control characters must be
escaped. -/
def scanParts? : Input → Option (List Part × Input)
  | [] => none
  | some '"' :: cs => some ([], cs)
  | some '\\' :: some 'u' :: a :: b :: c :: d :: cs =>
      match hexUnit? a b c d with
      | some code => (scanParts? cs).map fun (parts, rest) => (.unit code :: parts, rest)
      | none => none
  | some '\\' :: some e :: cs =>
      match escapedChar? e with
      | some c => (scanParts? cs).map fun (parts, rest) => (.char c :: parts, rest)
      | none => none
  | some '\\' :: _ => none
  | some c :: cs =>
      if c < ' ' then none
      else (scanParts? cs).map fun (parts, rest) => (.char c :: parts, rest)
  | none :: cs => (scanParts? cs).map fun (parts, rest) => (.stray :: parts, rest)

/-- Whether a code unit is the first half of a surrogate pair. -/
def isHighSurrogate (code : Nat) : Bool :=
  0xD800 ≤ code && code < 0xDC00

/-- Whether a code unit is the second half of a surrogate pair. -/
def isLowSurrogate (code : Nat) : Bool :=
  0xDC00 ≤ code && code < 0xE000

/-- The text that the parts of a string make up, if they make up one. -/
def join? : List Part → Option (List Char)
  | [] => some []
  | .char c :: parts => (join? parts).map (c :: ·)
  | .unit high :: .unit low :: parts =>
      if isHighSurrogate high then
        if isLowSurrogate low then
          let code := 0x10000 + (high - 0xD800) * 0x400 + (low - 0xDC00)
          (join? parts).map (Char.ofNat code :: ·)
        else none
      else if isLowSurrogate high then none
      else (join? (.unit low :: parts)).map (Char.ofNat high :: ·)
  | .unit code :: parts =>
      if isHighSurrogate code || isLowSurrogate code then none
      else (join? parts).map (Char.ofNat code :: ·)
  | .stray :: _ => none

/-- A string after its opening mark. -/
def scan? (input : Input) : Option (Option String × Input) :=
  (scanParts? input).map fun (parts, rest) => ((join? parts).map String.ofList, rest)

theorem scanParts?_length {input : Input} {parts : List Part} {rest : Input}
    (h : scanParts? input = some (parts, rest)) : rest.length < input.length := by
  fun_induction scanParts? input generalizing parts with
  | case1 => cases h
  | case2 => cases h; simp
  | case3 a b c d cs code _ ih =>
      simp only [Option.map_eq_some_iff, Prod.exists, Prod.mk.injEq] at h
      obtain ⟨p, r, h, -, rfl⟩ := h
      have := ih h
      simp only [List.length_cons]
      omega
  | case4 => cases h
  | case5 e cs _ c _ ih =>
      simp only [Option.map_eq_some_iff, Prod.exists, Prod.mk.injEq] at h
      obtain ⟨p, r, h, -, rfl⟩ := h
      have := ih h
      simp only [List.length_cons]
      omega
  | case6 => cases h
  | case7 => cases h
  | case8 => cases h
  | case9 c cs _ _ _ _ _ ih =>
      simp only [Option.map_eq_some_iff, Prod.exists, Prod.mk.injEq] at h
      obtain ⟨p, r, h, -, rfl⟩ := h
      have := ih h
      simp only [List.length_cons]
      omega
  | case10 cs ih =>
      simp only [Option.map_eq_some_iff, Prod.exists, Prod.mk.injEq] at h
      obtain ⟨p, r, h, -, rfl⟩ := h
      have := ih h
      simp only [List.length_cons]
      omega

theorem scan?_length {input : Input} {text : Option String} {rest : Input}
    (h : scan? input = some (text, rest)) : rest.length < input.length := by
  simp only [scan?, Option.map_eq_some_iff, Prod.exists, Prod.mk.injEq] at h
  obtain ⟨parts, r, h, -, rfl⟩ := h
  exact scanParts?_length h

end BookFilter.Quotation
