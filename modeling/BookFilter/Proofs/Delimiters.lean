import BookFilter.Proofs.Stripping

/-!
# Texts cut at a delimiter

A matcher whose finds hold no delimiter finds the same things before a delimiter whatever comes
after it, so that the two sides can be treated apart. Markers are found in this way before every
character that is in none of their names, and nowhere in front of their comma.
-/

namespace BookFilter

namespace Text

/-- Nothing else is the same character up to case. -/
def FoldsAlone (d : Char) : Prop :=
  ∀ c, fold c = fold d → c = d

theorem foldsAlone_of_lt {d : Char} (h : d.toNat < 0x41) : FoldsAlone d :=
  fun _ => (fold_eq_fold_iff h).mp

theorem foldsAlone_comma : FoldsAlone ',' :=
  foldsAlone_of_lt (by decide)

theorem foldsAlone_lineFeed : FoldsAlone '\n' :=
  foldsAlone_of_lt (by decide)

theorem foldsAlone_angle : FoldsAlone '<' :=
  foldsAlone_of_lt (by decide)

theorem foldsAlone_bracket : FoldsAlone ']' := by
  intro c heq
  have hbracket : fold ']' = 0x5D := by decide +kernel
  have hc : fold c = c.toNat ∨ 0x61 ≤ fold c :=
    foldIn_eq_or_le (fun run hrun => (foldRuns_bounds run hrun).2) c.toNat
  apply Char.toNat_inj.mp
  change c.toNat = 0x5D
  omega

/-- A character without another case stands in a text that a literal matches only if it stands in
the literal. -/
theorem SameFold.not_mem {literal matched : List Char} (h : SameFold literal matched) {d : Char}
    (hd : FoldsAlone d) (hliteral : d ∉ literal) : d ∉ matched := by
  intro hmem
  have hfold : fold d ∈ literal.map fold := by
    rw [show literal.map fold = matched.map fold from h]
    exact List.mem_map_of_mem hmem
  obtain ⟨c, hc, heq⟩ := List.mem_map.mp hfold
  exact hliteral (hd c heq ▸ hc)

theorem SameFold.exists_cons {d : Char} (hd : FoldsAlone d) {literal matched : List Char}
    (h : SameFold (d :: literal) matched) :
    ∃ rest, matched = d :: rest ∧ SameFold literal rest := by
  cases matched with
  | nil => cases h
  | cons c rest =>
      obtain ⟨hc, hrest⟩ := List.cons.inj h
      exact ⟨rest, by rw [hd c hc.symm], hrest⟩

theorem splitFolded?_of_head {d p : Char} (hd : FoldsAlone d) (hne : d ≠ p) (ps text : List Char) :
    splitFolded? (p :: ps) (d :: text) = none := by
  rw [splitFolded?, if_neg]
  intro heq
  exact hne (hd p heq).symm

theorem splitFolded?_of_ne {p c : Char} (hp : FoldsAlone p) (hne : c ≠ p) (ps cs : List Char) :
    splitFolded? (p :: ps) (c :: cs) = none := by
  rw [splitFolded?, if_neg]
  intro heq
  exact hne (hp c heq.symm)

/-- A literal without the delimiter is found in front of the delimiter or not at all. -/
theorem splitFolded?_append_delimiter {d : Char} (hd : FoldsAlone d) {literal : List Char}
    (h : d ∉ literal) (text rest : List Char) :
    splitFolded? literal (text ++ d :: rest) =
      (splitFolded? literal text).map fun (matched, after) => (matched, after ++ d :: rest) := by
  induction literal generalizing text with
  | nil => rfl
  | cons p ps ih =>
      simp only [List.mem_cons, not_or] at h
      cases text with
      | nil => exact splitFolded?_of_head hd h.1 ps rest
      | cons c cs =>
          simp only [List.cons_append, splitFolded?]
          split
          · rw [ih h.2, Option.map_map, Option.map_map]
            rfl
          · rfl

namespace Matcher

variable {α : Type} {m : Matcher α} {d : Char}

/-- What is found in front of the delimiter is found there whatever comes after it. -/
def IsLocalAt (m : Matcher α) (d : Char) : Prop :=
  ∀ text rest, m.at? (text ++ d :: rest) =
    (m.at? text).map fun (a, after) => (a, after ++ d :: rest)

theorem at?_nil (m : Matcher α) : m.at? [] = none := by
  cases h : m.at? [] with
  | none => rfl
  | some pair => exact absurd (m.length_lt h) (Nat.not_lt_zero _)

/-- Before a delimiter or the end of the text, what is found in front of it is found there. -/
theorem IsLocalAt.at?_append (h : m.IsLocalAt d) {tail : List Char}
    (htail : ∀ c ∈ tail.head?, c = d) (text : List Char) :
    m.at? (text ++ tail) = (m.at? text).map fun (a, after) => (a, after ++ tail) := by
  cases tail with
  | nil => simp
  | cons c tail =>
      obtain rfl := htail c rfl
      exact h text tail

/-- If no find reaches over into the tail, the text and the tail can be gone through apart. -/
theorem pieces_append {tail : List Char} (h : ∀ c cs, m.at? (c :: cs ++ tail) =
    (m.at? (c :: cs)).map fun (a, after) => (a, after ++ tail)) (text : List Char) :
    m.pieces (text ++ tail) = m.pieces text ++ m.pieces tail := by
  fun_induction Matcher.pieces m text with
  | case1 => rfl
  | case2 c cs a after hfound _ ih =>
      have hat := h c cs
      rw [hfound] at hat
      rw [m.pieces_of_found hat, ih, List.cons_append]
  | case3 c cs hnone ih =>
      have hat := h c cs
      rw [hnone] at hat
      rw [List.cons_append] at hat ⊢
      rw [m.pieces_of_none hat, ih, List.cons_append]

theorem IsLocalAt.replace_append (h : m.IsLocalAt d) (f : α → List Char)
    (text rest : List Char) :
    m.replace f (text ++ d :: rest) = m.replace f text ++ d :: m.replace f rest := by
  have hnone : m.at? (d :: rest) = none := by
    have hempty := h [] rest
    rwa [m.at?_nil] at hempty
  rw [replace, m.pieces_append (fun c cs => h (c :: cs) rest), m.pieces_of_none hnone,
    List.flatMap_append, List.flatMap_cons]
  rfl

theorem erase_sublist (m : Matcher α) (text : List Char) :
    (m.replace (fun _ => []) text).Sublist text := by
  rw [replace]
  fun_induction Matcher.pieces m text with
  | case1 => exact List.Sublist.refl _
  | case2 c cs a rest hfound _ ih =>
      rw [← m.source_append hfound]
      exact ih.trans (List.sublist_append_right _ _)
  | case3 c cs _ ih => exact ih.cons_cons c

end Matcher

end Text

open Text

/-- If no name matches over into the tail, no marker reaches over into it. -/
theorem marker?_append_of_forall {names : List (List Char)} {text tail : List Char}
    (h : ∀ name ∈ names, splitFolded? (',' :: name) (text ++ tail) =
      (splitFolded? (',' :: name) text).map fun (matched, after) => (matched, after ++ tail)) :
    marker? names (text ++ tail) =
      (marker? names text).map fun (marker, after) => (marker, after ++ tail) := by
  rw [marker?_eq_findSome?, marker?_eq_findSome?]
  induction names with
  | nil => rfl
  | cons name names ih =>
      have hnames := ih fun other hother => h other (List.mem_cons_of_mem _ hother)
      rw [List.findSome?_cons, List.findSome?_cons, h name (List.mem_cons_self ..), hnames]
      cases splitFolded? (',' :: name) text <;> rfl

theorem markers_isLocalAt {names : List (List Char)} {d : Char} (hd : FoldsAlone d)
    (hcomma : d ≠ ',') (h : ∀ name ∈ names, d ∉ name) : (markers names).IsLocalAt d := by
  intro text rest
  apply marker?_append_of_forall
  intro name hname
  have hmarker : d ∉ ',' :: name := by simp [hcomma, h name hname]
  exact splitFolded?_append_delimiter hd hmarker text rest

/-- No marker begins before the first comma. -/
theorem markers_replace_append {names : List (List Char)} (f : List Char → List Char)
    {plain : List Char} (h : ',' ∉ plain) (rest : List Char) :
    (markers names).replace f (plain ++ rest) = plain ++ (markers names).replace f rest := by
  induction plain with
  | nil => rfl
  | cons c cs ih =>
      simp only [List.mem_cons, not_or] at h
      have hnone : (markers names).at? (c :: (cs ++ rest)) = none := by
        change marker? names _ = none
        unfold marker?
        split
        · next heq => exact absurd (List.cons.inj heq).1.symm h.1
        · rfl
      rw [List.cons_append, Matcher.replace, Matcher.pieces_of_none _ hnone, List.flatMap_cons,
        ← Matcher.replace, ih h.2]
      rfl

end BookFilter
