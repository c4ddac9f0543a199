import BookFilter.Text.FoldTable

/-! # Comparing text up to case

Two characters are the same up to case when they have one simple case folding, and two texts when
they agree character by character; a character never stands for several. `splitFolded?` reads a
literal up to case from the start of a text. -/

namespace BookFilter.Text

/-- Looks a code point up in runs ordered by first code point. -/
def foldIn : List FoldRun → Nat → Nat
  | [], n => n
  | run :: runs, n =>
      if n < run.first then n
      else if run.covers n then run.target + (n - run.first)
      else foldIn runs n

/-- The code point of the simple case folding of a character. -/
def fold (c : Char) : Nat :=
  foldIn foldRuns c.toNat

/-- The texts have one length and agree up to case, character by character. -/
def SameFold (s t : List Char) : Prop :=
  s.map fold = t.map fold

instance (s t : List Char) : Decidable (SameFold s t) :=
  inferInstanceAs (Decidable (s.map fold = t.map fold))

theorem SameFold.length_eq {s t : List Char} (h : SameFold s t) : s.length = t.length := by
  simpa using congrArg List.length h

/-- Splits a text after the literal, if it begins with it up to case. -/
def splitFolded? : List Char → List Char → Option (List Char × List Char)
  | [], text => some ([], text)
  | _ :: _, [] => none
  | p :: ps, c :: cs =>
      if fold p = fold c then
        (splitFolded? ps cs).map fun (matched, rest) => (c :: matched, rest)
      else none

theorem splitFolded?_eq_some_iff {literal text matched rest : List Char} :
    splitFolded? literal text = some (matched, rest) ↔
      matched ++ rest = text ∧ SameFold literal matched := by
  induction literal generalizing text matched with
  | nil =>
      simp only [splitFolded?, Option.some.injEq, Prod.mk.injEq, SameFold, List.map_nil]
      constructor
      · rintro ⟨rfl, rfl⟩
        simp
      · rintro ⟨h, hm⟩
        have : matched = [] := by simpa using hm.symm
        simp_all
  | cons p ps ih =>
      cases text with
      | nil =>
          simp only [splitFolded?, SameFold, List.append_eq_nil_iff, List.map_cons]
          constructor
          · intro h; cases h
          · rintro ⟨⟨rfl, -⟩, h⟩
            simp at h
      | cons c cs =>
          simp only [splitFolded?]
          split
          · next hc =>
              simp only [Option.map_eq_some_iff, Prod.exists, Prod.mk.injEq]
              constructor
              · rintro ⟨m, r, h, rfl, rfl⟩
                obtain ⟨h1, h2⟩ := ih.1 h
                exact ⟨by simp [h1], by simpa [SameFold, hc] using h2⟩
              · rintro ⟨h, hm⟩
                cases matched with
                | nil => simp [SameFold] at hm
                | cons d m =>
                    simp only [List.cons_append, List.cons.injEq] at h
                    obtain ⟨rfl, h⟩ := h
                    refine ⟨m, rest, ih.2 ⟨h, ?_⟩, rfl, rfl⟩
                    simpa [SameFold, hc] using hm
          · next hc =>
              constructor
              · intro h; cases h
              · rintro ⟨h, hm⟩
                cases matched with
                | nil => simp [SameFold] at hm
                | cons d m =>
                    simp only [List.cons_append, List.cons.injEq] at h
                    obtain ⟨rfl, -⟩ := h
                    simp only [SameFold, List.map_cons, List.cons.injEq] at hm
                    exact absurd hm.1 hc

theorem splitFolded?_append {literal text matched rest : List Char}
    (h : splitFolded? literal text = some (matched, rest)) : matched ++ rest = text :=
  (splitFolded?_eq_some_iff.1 h).1

theorem splitFolded?_length {literal text matched rest : List Char}
    (h : splitFolded? literal text = some (matched, rest)) :
    matched.length = literal.length :=
  (splitFolded?_eq_some_iff.1 h).2.length_eq.symm

end BookFilter.Text
