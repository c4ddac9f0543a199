import BookFilter.Proofs.Cuts

/-!
# Positions in a text

A span is a stretch of positions. What is found in a text has one, and to delete everything found is
to leave out the characters that these spans cover.
-/

namespace BookFilter.Text

/-- As many positions of a text as the length says, from `start` on. -/
structure Span where
  start : Nat
  length : Nat
deriving DecidableEq

/-- Whether a position is one of them. -/
def Span.covers (span : Span) (i : Nat) : Bool :=
  span.start ≤ i && i < span.start + span.length

/-- The characters of a text, the first of which has position `i`, that no span covers. -/
def withoutFrom (spans : List Span) : Nat → List Char → List Char
  | _, [] => []
  | i, c :: cs =>
      if spans.any (·.covers i) then withoutFrom spans (i + 1) cs
      else c :: withoutFrom spans (i + 1) cs

/-- The characters of a text at the positions that no span covers. -/
def without (spans : List Span) (text : List Char) : List Char :=
  withoutFrom spans 0 text

section Without

variable {spans : List Span} {i : Nat} {text : List Char}

theorem withoutFrom_append (spans : List Span) (i : Nat) (text rest : List Char) :
    withoutFrom spans i (text ++ rest) =
      withoutFrom spans i text ++ withoutFrom spans (i + text.length) rest := by
  induction text generalizing i with
  | nil => rfl
  | cons c cs ih =>
      have hlength : i + (c :: cs).length = i + 1 + cs.length := by
        rw [List.length_cons]
        omega
      rw [hlength, List.cons_append, withoutFrom, withoutFrom, ih]
      split <;> rfl

/-- Text before all spans is kept. -/
theorem withoutFrom_of_before (h : ∀ span ∈ spans, i + text.length ≤ span.start) :
    withoutFrom spans i text = text := by
  induction text generalizing i with
  | nil => rfl
  | cons c cs ih =>
      have hcovers : spans.any (·.covers i) = false := by
        rw [List.any_eq_false]
        intro span hspan
        have hstart := h span hspan
        simp only [List.length_cons] at hstart
        simp only [Span.covers, Bool.and_eq_true, decide_eq_true_eq]
        omega
      rw [withoutFrom, hcovers, ih]
      · rfl
      · intro span hspan
        have hstart := h span hspan
        simp only [List.length_cons] at hstart
        omega

/-- A stretch that a span covers is deleted. -/
theorem withoutFrom_of_covered {span : Span} (hspan : span ∈ spans) (hstart : span.start ≤ i)
    (hstop : i + text.length ≤ span.start + span.length) : withoutFrom spans i text = [] := by
  induction text generalizing i with
  | nil => rfl
  | cons c cs ih =>
      simp only [List.length_cons] at hstop
      have hcovers : spans.any (·.covers i) = true := by
        rw [List.any_eq_true]
        refine ⟨span, hspan, ?_⟩
        simp only [Span.covers, Bool.and_eq_true, decide_eq_true_eq]
        omega
      rw [withoutFrom, hcovers, if_pos rfl]
      exact ih (by omega) (by omega)

/-- A span before the text deletes nothing of it. -/
theorem withoutFrom_cons_of_after {span : Span} (h : span.start + span.length ≤ i) :
    withoutFrom (span :: spans) i text = withoutFrom spans i text := by
  induction text generalizing i with
  | nil => rfl
  | cons c cs ih =>
      have hcovers : span.covers i = false := by
        simp only [Span.covers, Bool.and_eq_false_iff, decide_eq_false_iff_not]
        omega
      rw [withoutFrom, withoutFrom, List.any_cons, hcovers, Bool.false_or, ih (by omega)]

end Without

namespace Cut

variable {α : Type}

/-- Found things with the positions where they begin; the first of them begins at `start`. -/
def placedFrom (source : α → List Char) : Nat → List (α × List Char) → List (Nat × α)
  | _, [] => []
  | start, (a, kept) :: others =>
      (start, a) :: placedFrom source (start + (source a).length + kept.length) others

/-- What is found, with the positions where it begins. -/
def placed (source : α → List Char) (cut : Cut α) : List (Nat × α) :=
  placedFrom source cut.first.length cut.others

/-- The positions of something found that begins at the given one. -/
def spanOf (source : α → List Char) (find : Nat × α) : Span :=
  ⟨find.1, (source find.2).length⟩

/-- The positions of what is found. -/
def spans (source : α → List Char) (cut : Cut α) : List Span :=
  (cut.placed source).map (spanOf source)

variable {source : α → List Char}

theorem le_of_mem_placedFrom {start i : Nat} {a : α} {others : List (α × List Char)}
    (h : (i, a) ∈ placedFrom source start others) : start ≤ i := by
  induction others generalizing start with
  | nil => cases h
  | cons pair others ih =>
      rcases List.mem_cons.mp h with heq | hmem
      · exact Nat.le_of_eq (congrArg Prod.fst heq).symm
      · have hle := ih hmem
        omega

theorem withoutFrom_spans (source : α → List Char) (others : List (α × List Char))
    (kept : List Char) (i : Nat) :
    withoutFrom ((placedFrom source (i + kept.length) others).map (spanOf source)) i
        (kept ++ tailText source others) = kept ++ tailText (fun _ => []) others := by
  induction others generalizing kept i with
  | nil =>
      rw [tailText_nil, tailText_nil, List.append_nil]
      exact withoutFrom_of_before fun span hspan => by cases hspan
  | cons pair others ih =>
      obtain ⟨a, next⟩ := pair
      have hkept : ∀ span ∈ (placedFrom source (i + kept.length) ((a, next) :: others)).map
          (spanOf source), i + kept.length ≤ span.start := by
        intro span hspan
        obtain ⟨⟨start, b⟩, hplaced, rfl⟩ := List.mem_map.mp hspan
        exact le_of_mem_placedFrom hplaced
      have hfound : withoutFrom ((placedFrom source (i + kept.length) ((a, next) :: others)).map
          (spanOf source)) (i + kept.length) (source a) = [] :=
        withoutFrom_of_covered (List.mem_cons_self ..) (Nat.le_refl _) (Nat.le_refl _)
      -- After the first find only the spans of the others are left.
      have hothers : withoutFrom ((placedFrom source (i + kept.length) ((a, next) :: others)).map
          (spanOf source)) (i + kept.length + (source a).length)
          (next ++ tailText source others) = next ++ tailText (fun _ => []) others :=
        (withoutFrom_cons_of_after (Nat.le_refl _)).trans (ih next _)
      rw [tailText_cons, tailText_cons, withoutFrom_append, withoutFrom_append,
        withoutFrom_of_before hkept, hfound, hothers]

/-- Deleting the positions of what is found leaves the stretches. -/
theorem without_spans (source : α → List Char) (cut : Cut α) :
    without (cut.spans source) (cut.text source) = cut.text (fun _ => []) := by
  have hcut := withoutFrom_spans source cut.others cut.first 0
  rw [Nat.zero_add] at hcut
  exact hcut

end Cut

end BookFilter.Text
