import BookFilter.Text.Folding

/-!
# Literals that a text begins with up to case

Digits, marks and control characters fold to themselves, and nothing else folds to them. A literal
made of such characters is matched as written; the others are matched up to case.
-/

namespace BookFilter.Text

theorem foldIn_of_lt {runs : List FoldRun} {n : Nat} (h : ∀ run ∈ runs, n < run.first) :
    foldIn runs n = n := by
  cases runs with
  | nil => rfl
  | cons run runs =>
      have hrun := h run (List.mem_cons_self ..)
      simp only [foldIn, if_pos hrun]

theorem foldIn_eq_or_le {runs : List FoldRun} {bound : Nat}
    (h : ∀ run ∈ runs, bound ≤ run.target) (n : Nat) :
    foldIn runs n = n ∨ bound ≤ foldIn runs n := by
  induction runs with
  | nil => exact Or.inl rfl
  | cons run runs ih =>
      have hrun := h run (List.mem_cons_self ..)
      simp only [foldIn]
      split
      · exact Or.inl rfl
      · split
        · exact Or.inr (by omega)
        · exact ih fun other hother => h other (List.mem_cons_of_mem _ hother)

/-- The table begins at the letter `A`, and no letter before `a` is a folding. -/
theorem foldRuns_bounds : ∀ run ∈ foldRuns, 0x41 ≤ run.first ∧ 0x61 ≤ run.target := by
  decide +kernel

theorem fold_of_lt {c : Char} (h : c.toNat < 0x41) : fold c = c.toNat := by
  apply foldIn_of_lt
  intro run hrun
  have hfirst := (foldRuns_bounds run hrun).1
  omega

/-- A character before the letter `A` has no other case. -/
theorem fold_eq_fold_iff {c d : Char} (h : d.toNat < 0x41) : fold c = fold d ↔ c = d := by
  constructor
  · intro heq
    rw [fold_of_lt h] at heq
    have hc : fold c = c.toNat ∨ 0x61 ≤ fold c :=
      foldIn_eq_or_le (fun run hrun => (foldRuns_bounds run hrun).2) c.toNat
    apply Char.toNat_inj.mp
    omega
  · rintro rfl
    rfl

/-- The text begins with the literal up to case. -/
def BeginsFolded (literal text : List Char) : Prop :=
  ∃ matched rest, matched ++ rest = text ∧ SameFold literal matched

theorem beginsFolded_iff {literal text : List Char} :
    BeginsFolded literal text ↔
      ∃ matched rest, splitFolded? literal text = some (matched, rest) := by
  simp only [BeginsFolded, splitFolded?_eq_some_iff]

instance (literal text : List Char) : Decidable (BeginsFolded literal text) :=
  decidable_of_iff ((splitFolded? literal text).isSome = true) <| by
    rw [beginsFolded_iff, Option.isSome_iff_exists, Prod.exists]

theorem splitFolded?_eq_none_iff {literal text : List Char} :
    splitFolded? literal text = none ↔ ¬ BeginsFolded literal text := by
  rw [beginsFolded_iff, Option.eq_none_iff_forall_ne_some]
  simp

/-- A text begins with a literal up to case if its folding begins with that of the literal. -/
theorem beginsFolded_iff_map_fold {literal text : List Char} :
    BeginsFolded literal text ↔ literal.map fold <+: text.map fold := by
  constructor
  · rintro ⟨matched, rest, rfl, hfold⟩
    rw [show literal.map fold = matched.map fold from hfold, List.map_append]
    exact List.prefix_append _ _
  · rintro ⟨rest, happ⟩
    obtain ⟨matched, after, rfl, hfold, -⟩ := List.map_eq_append_iff.mp happ.symm
    exact ⟨matched, after, rfl, hfold.symm⟩

theorem BeginsFolded.trans {shorter longer text : List Char} (h : BeginsFolded shorter longer)
    (hlonger : BeginsFolded longer text) : BeginsFolded shorter text := by
  rw [beginsFolded_iff_map_fold] at h hlonger ⊢
  exact List.IsPrefix.trans h hlonger

/-- Of two literals that one text begins with, the longer one begins with the other. -/
theorem BeginsFolded.of_length_le {shorter longer text : List Char}
    (h : BeginsFolded shorter text) (hlonger : BeginsFolded longer text)
    (hlength : shorter.length ≤ longer.length) : BeginsFolded shorter longer := by
  rw [beginsFolded_iff_map_fold] at h hlonger ⊢
  apply List.prefix_of_prefix_length_le h hlonger
  simpa only [List.length_map] using hlength

theorem beginsFolded_cons {c : Char} {literal text : List Char} :
    BeginsFolded (c :: literal) (c :: text) ↔ BeginsFolded literal text := by
  simp only [beginsFolded_iff_map_fold, List.map_cons, List.cons_prefix_cons, true_and]

theorem BeginsFolded.tail {c : Char} {literal text : List Char}
    (h : BeginsFolded (c :: literal) text) : BeginsFolded literal text.tail := by
  rw [beginsFolded_iff_map_fold] at h ⊢
  cases text with
  | nil => simp at h
  | cons d text => exact (List.cons_prefix_cons.mp h).2

theorem SameFold.symm {s t : List Char} (h : SameFold s t) : SameFold t s :=
  Eq.symm h

theorem SameFold.trans {s t u : List Char} (hst : SameFold s t) (htu : SameFold t u) :
    SameFold s u :=
  Eq.trans hst htu

/-- A literal fixes how much of a text it matches. -/
theorem SameFold.append_inj {s t matched other rest after : List Char} (hs : SameFold s matched)
    (ht : SameFold t other) (hlen : s.length = t.length)
    (happ : matched ++ rest = other ++ after) : matched = other ∧ rest = after := by
  apply List.append_inj happ
  rw [← hs.length_eq, ← ht.length_eq, hlen]

end BookFilter.Text
