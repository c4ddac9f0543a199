/-! # Leftmost matches that do not overlap

A matcher looks at the start of a text only. `Matcher.pieces` goes through a text from the left:
where the matcher finds something, that is one piece and the scan goes on after it; elsewhere one
character is kept. What was found is never looked at again. -/

namespace BookFilter.Text

/-- A rule that may recognise something at the start of a text. -/
structure Matcher (α : Type) where
  /-- The text that a found value stands for, as written. -/
  source : α → List Char
  /-- What stands at the start of the text, and the text after it. -/
  at? : List Char → Option (α × List Char)
  source_append : ∀ {text a rest}, at? text = some (a, rest) → source a ++ rest = text
  source_ne_nil : ∀ {text a rest}, at? text = some (a, rest) → source a ≠ []

/-- One step of a scan: a character that is kept, or something found. -/
inductive Piece (α : Type) where
  | kept (c : Char)
  | found (a : α)
deriving DecidableEq, Repr

namespace Matcher

variable {α : Type} (m : Matcher α)

theorem length_lt {text : List Char} {a : α} {rest : List Char}
    (h : m.at? text = some (a, rest)) : rest.length < text.length := by
  have happ := congrArg List.length (m.source_append h)
  have hne := List.length_pos_iff.2 (m.source_ne_nil h)
  simp only [List.length_append] at happ
  omega

/-- The pieces of a text, from the left. -/
def pieces : List Char → List (Piece α)
  | [] => []
  | c :: cs =>
      match h : m.at? (c :: cs) with
      | some (a, rest) =>
          have := m.length_lt h
          .found a :: pieces rest
      | none => .kept c :: pieces cs
termination_by text => text.length
decreasing_by
  · exact this
  · exact Nat.lt_succ_self _

/-- The text that a piece stands for. -/
def pieceSource : Piece α → List Char
  | .kept c => [c]
  | .found a => m.source a

/-- Replaces everything found and keeps the rest of the text. -/
def replace (f : α → List Char) (text : List Char) : List Char :=
  (m.pieces text).flatMap fun
    | .kept c => [c]
    | .found a => f a

@[simp] theorem pieces_nil : m.pieces [] = [] := by
  rw [pieces]

theorem pieces_of_found {text : List Char} {a : α} {rest : List Char}
    (h : m.at? text = some (a, rest)) : m.pieces text = .found a :: m.pieces rest := by
  cases text with
  | nil =>
      have := m.length_lt h
      simp at this
  | cons c cs =>
      rw [pieces]
      split
      · next h' =>
          rw [h] at h'
          cases h'
          rfl
      · next h' =>
          rw [h] at h'
          cases h'

theorem pieces_of_none {c : Char} {cs : List Char} (h : m.at? (c :: cs) = none) :
    m.pieces (c :: cs) = .kept c :: m.pieces cs := by
  rw [pieces]
  split
  · next h' =>
      rw [h] at h'
      cases h'
  · rfl

/-- Nothing is lost: the pieces of a text make up the text. -/
theorem pieces_source (text : List Char) : (m.pieces text).flatMap m.pieceSource = text := by
  fun_induction pieces m text with
  | case1 => rfl
  | case2 c cs a rest h _ ih =>
      simp only [List.flatMap_cons, pieceSource, ih]
      exact m.source_append h
  | case3 c cs h ih => simp [pieceSource, ih]

end Matcher

end BookFilter.Text
