import BookFilter.Json.Numeral
import BookFilter.Json.Quotation

/-! # Tokens of JSON

`Token.scan` splits a text into tokens. Where the text stops being made of tokens, the last token is
`broken`. Nothing needs to stand between two tokens. -/

namespace BookFilter

/-- The least parts of a JSON text. -/
inductive Token where
  | openArray
  | closeArray
  | openObject
  | closeObject
  | comma
  | colon
  | null
  | bool (value : Bool)
  | number (value : Numeral)
  | string (text : Option String)
  | broken
deriving DecidableEq, Repr

namespace Token

/-- What is left of a text after the given word, if it begins with it. -/
def afterWord? : List Char → Input → Option Input
  | [], cs => some cs
  | w :: ws, some c :: cs => if w = c then afterWord? ws cs else none
  | _ :: _, _ => none

/-- The blanks that may stand between tokens. -/
def isBlank (c : Char) : Bool :=
  c = ' ' || c = '\n' || c = '\t' || c = '\r'

/-- The token that a character other than a blank begins, and the rest. -/
def next? (c : Char) (cs : Input) : Option (Token × Input) :=
  match c with
  | '[' => some (.openArray, cs)
  | ']' => some (.closeArray, cs)
  | '\x7b' => some (.openObject, cs)
  | '\x7d' => some (.closeObject, cs)
  | ',' => some (.comma, cs)
  | ':' => some (.colon, cs)
  | '"' => (Quotation.scan? cs).map fun (text, rest) => (.string text, rest)
  | 'n' => (afterWord? "ull".toList cs).map fun rest => (.null, rest)
  | 't' => (afterWord? "rue".toList cs).map fun rest => (.bool true, rest)
  | 'f' => (afterWord? "alse".toList cs).map fun rest => (.bool false, rest)
  | _ => (Numeral.scan? (some c :: cs)).map fun (value, rest) => (.number value, rest)

theorem afterWord?_length {word : List Char} {input rest : Input}
    (h : afterWord? word input = some rest) : rest.length ≤ input.length := by
  fun_induction afterWord? word input with
  | case1 => cases h; exact Nat.le_refl _
  | case2 w ws cs ih =>
      have := ih h
      simp only [List.length_cons]
      omega
  | case3 => cases h
  | case4 => cases h

theorem next?_length {c : Char} {cs : Input} {token : Token} {rest : Input}
    (h : next? c cs = some (token, rest)) : rest.length ≤ cs.length := by
  unfold next? at h
  split at h
  case h_7 =>
    obtain ⟨⟨text, r⟩, hs, hr⟩ := Option.map_eq_some_iff.1 h
    cases hr
    exact Nat.le_of_lt (Quotation.scan?_length hs)
  case h_8 | h_9 | h_10 =>
    obtain ⟨r, hs, hr⟩ := Option.map_eq_some_iff.1 h
    cases hr
    exact afterWord?_length hs
  case h_11 =>
    obtain ⟨⟨value, r⟩, hs, hr⟩ := Option.map_eq_some_iff.1 h
    cases hr
    have := Numeral.scan?_length hs
    simp only [List.length_cons] at this
    omega
  all_goals
    cases h
    exact Nat.le_refl _

/-- The tokens of a text. -/
def scan : Input → List Token
  | [] => []
  | none :: _ => [.broken]
  | some c :: cs =>
      if isBlank c then scan cs
      else
        match h : next? c cs with
        | some (token, rest) =>
            have := next?_length h
            token :: scan rest
        | none => [.broken]
termination_by input => input.length
decreasing_by
  · exact Nat.lt_succ_self _
  · exact Nat.lt_succ_of_le this

end Token

end BookFilter
