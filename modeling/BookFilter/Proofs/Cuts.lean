import BookFilter.Text.Pieces
import Mathlib.Logic.ExistsUnique

/-!
# Texts cut at what is found in them

A cut writes a text as kept stretches with found things between them. It is the scan of the text if
everything found stands where it is found and nothing begins in a kept stretch. Every text has
exactly one scan, and replacing everything found keeps the stretches of that scan. A filter that
passes over what is found changes the stretches only.
-/

namespace BookFilter.Text

variable {α : Type}

/-- A text as a stretch, then found things, each with the stretch after it. -/
structure Cut (α : Type) where
  first : List Char
  others : List (α × List Char)

namespace Cut

/-- Found things, each with the stretch after it, with a text in the place of each. -/
def tailText (f : α → List Char) (others : List (α × List Char)) : List Char :=
  others.flatMap fun (a, kept) => f a ++ kept

/-- The stretches with a text in the place of everything found. -/
def text (f : α → List Char) (cut : Cut α) : List Char :=
  cut.first ++ tailText f cut.others

/-- The kept stretches in order. -/
def stretches (cut : Cut α) : List (List Char) :=
  cut.first :: cut.others.map Prod.snd

@[simp] theorem tailText_nil (f : α → List Char) : tailText f [] = [] := rfl

@[simp] theorem tailText_cons (f : α → List Char) (a : α) (kept : List Char)
    (others : List (α × List Char)) :
    tailText f ((a, kept) :: others) = f a ++ (kept ++ tailText f others) := by
  simp [tailText]

theorem tailText_erased (others : List (α × List Char)) :
    tailText (fun _ => []) others = (others.map Prod.snd).flatten := by
  induction others with
  | nil => rfl
  | cons pair others ih =>
      rw [tailText_cons, ih]
      rfl

/-- Without anything in the place of what is found, the stretches remain. -/
theorem text_erased (cut : Cut α) : cut.text (fun _ => []) = cut.stretches.flatten := by
  rw [text, tailText_erased, stretches, List.flatten_cons]

/-- Nothing begins at a position of the stretch, with the rest of the text after it. -/
def Quiet (begins : List Char → Prop) (kept rest : List Char) : Prop :=
  ∀ before after, before ++ after = kept → after ≠ [] → ¬ begins (after ++ rest)

@[simp] theorem quiet_nil (begins : List Char → Prop) (rest : List Char) :
    Quiet begins [] rest := by
  intro before after happ hne
  simp only [List.append_eq_nil_iff] at happ
  exact absurd happ.2 hne

theorem quiet_cons {begins : List Char → Prop} {c : Char} {kept rest : List Char} :
    Quiet begins (c :: kept) rest ↔ ¬ begins (c :: kept ++ rest) ∧ Quiet begins kept rest := by
  constructor
  · intro h
    refine ⟨h [] (c :: kept) rfl (List.cons_ne_nil _ _), ?_⟩
    intro before after happ hne
    exact h (c :: before) after (by rw [← happ]; rfl) hne
  · rintro ⟨hhead, htail⟩ before after happ hne
    cases before with
    | nil =>
        rw [← show after = c :: kept from happ] at hhead
        exact hhead
    | cons d before =>
        simp only [List.cons_append, List.cons.injEq] at happ
        exact htail before after happ.2 hne

/-- Everything found stands where it is found, and nothing begins in a kept stretch. Here
`stands a rest` says that `a` may be found where `rest` comes after it. -/
structure IsScan (source : α → List Char) (stands : α → List Char → Prop)
    (begins : List Char → Prop) (cut : Cut α) : Prop where
  first_quiet : Quiet begins cut.first (tailText source cut.others)
  found : ∀ before a kept after, before ++ (a, kept) :: after = cut.others →
    stands a (kept ++ tailText source after) ∧ Quiet begins kept (tailText source after)

variable {source : α → List Char} {stands : α → List Char → Prop} {begins : List Char → Prop}

theorem isScan_nil : IsScan source stands begins ⟨[], []⟩ where
  first_quiet := quiet_nil begins _
  found _ _ _ _ h := by simp at h

theorem isScan_kept {c : Char} {first : List Char} {others : List (α × List Char)} :
    IsScan source stands begins ⟨c :: first, others⟩ ↔
      ¬ begins (c :: first ++ tailText source others) ∧
        IsScan source stands begins ⟨first, others⟩ := by
  constructor
  · intro h
    have hquiet := quiet_cons.mp h.first_quiet
    exact ⟨hquiet.1, hquiet.2, h.found⟩
  · rintro ⟨hhead, h⟩
    exact ⟨quiet_cons.mpr ⟨hhead, h.first_quiet⟩, h.found⟩

theorem isScan_found {a : α} {kept : List Char} {others : List (α × List Char)} :
    IsScan source stands begins ⟨[], (a, kept) :: others⟩ ↔
      stands a (kept ++ tailText source others) ∧
        IsScan source stands begins ⟨kept, others⟩ := by
  constructor
  · intro h
    have hfirst := h.found [] a kept others rfl
    refine ⟨hfirst.1, hfirst.2, ?_⟩
    intro before b other after happ
    exact h.found ((a, kept) :: before) b other after (congrArg (List.cons _) happ)
  · rintro ⟨hstands, h⟩
    refine ⟨quiet_nil begins _, ?_⟩
    intro before b other after happ
    cases before with
    | nil =>
        simp only [List.nil_append, List.cons.injEq, Prod.mk.injEq] at happ
        obtain ⟨⟨rfl, rfl⟩, rfl⟩ := happ
        exact ⟨hstands, h.first_quiet⟩
    | cons pair before =>
        exact h.found before b other after (List.cons.inj happ).2

/-- The cut is a scan of the text. -/
def IsScanOf (source : α → List Char) (stands : α → List Char → Prop)
    (begins : List Char → Prop) (text : List Char) (cut : Cut α) : Prop :=
  cut.text source = text ∧ cut.IsScan source stands begins

theorem IsScan.quiet_of_mem {cut : Cut α} (h : cut.IsScan source stands begins)
    {stretch : List Char} (hmem : stretch ∈ cut.stretches) : ∃ rest, Quiet begins stretch rest := by
  rcases List.mem_cons.mp hmem with rfl | hmem
  · exact ⟨_, h.first_quiet⟩
  · obtain ⟨⟨a, kept⟩, hpair, rfl⟩ := List.mem_map.mp hmem
    obtain ⟨before, after, happ⟩ := List.append_of_mem hpair
    exact ⟨_, (h.found before a kept after happ.symm).2⟩

/-- A part of stretches put together lies in one of them, or two of them meet inside it. -/
theorem infix_or_boundary {stretches : List (List Char)} {before middle after : List Char}
    (happ : before ++ middle ++ after = stretches.flatten) (hne : middle ≠ []) :
    (∃ stretch ∈ stretches, middle <:+: stretch) ∨
      ∃ left right, left ++ right = stretches ∧ before.length < left.flatten.length ∧
        left.flatten.length < before.length + middle.length := by
  induction stretches generalizing before with
  | nil => simp_all
  | cons stretch stretches ih =>
      rw [List.flatten_cons] at happ
      have hstretch : stretch <+: stretch ++ stretches.flatten := List.prefix_append _ _
      have hmiddle : before ++ middle <+: stretch ++ stretches.flatten := ⟨after, happ⟩
      by_cases hbefore : stretch.length ≤ before.length
      · -- The part begins after the first stretch.
        obtain ⟨skipped, rfl⟩ := List.prefix_of_prefix_length_le hstretch
          ((List.prefix_append before middle).trans hmiddle) hbefore
        simp only [List.append_assoc, List.append_cancel_left_eq] at happ
        rw [← List.append_assoc] at happ
        rcases ih happ with ⟨other, hother, hinfix⟩ | ⟨left, right, hsplit, hlow, hhigh⟩
        · exact Or.inl ⟨other, List.mem_cons_of_mem _ hother, hinfix⟩
        · refine Or.inr ⟨stretch :: left, right, congrArg (List.cons stretch) hsplit, ?_, ?_⟩
          · simp only [List.flatten_cons, List.length_append]
            omega
          · simp only [List.flatten_cons, List.length_append]
            omega
      · by_cases hinside : (before ++ middle).length ≤ stretch.length
        · -- The part ends within the first stretch.
          obtain ⟨last, hlast⟩ := List.prefix_of_prefix_length_le hmiddle hstretch hinside
          exact Or.inl ⟨stretch, List.mem_cons_self .., before, last, hlast⟩
        · refine Or.inr ⟨[stretch], stretches, rfl, ?_, ?_⟩
          · rw [List.flatten_singleton]
            omega
          · rw [List.flatten_singleton]
            simp only [List.length_append] at hinside
            omega

/-- The cut that pieces make up. -/
def ofPieces : List (Piece α) → Cut α
  | [] => ⟨[], []⟩
  | .kept c :: pieces => ⟨c :: (ofPieces pieces).first, (ofPieces pieces).others⟩
  | .found a :: pieces => ⟨[], (a, (ofPieces pieces).first) :: (ofPieces pieces).others⟩

theorem text_ofPieces (f : α → List Char) (pieces : List (Piece α)) :
    (ofPieces pieces).text f = pieces.flatMap fun
      | .kept c => [c]
      | .found a => f a := by
  induction pieces with
  | nil => rfl
  | cons piece pieces ih =>
      rw [List.flatMap_cons, ← ih]
      cases piece <;> simp [ofPieces, text]

section Map

variable {β : Type}

/-- A cut with something else in the place of what is found and of the stretches. -/
def map (found : α → β) (kept : List Char → List Char) (cut : Cut α) : Cut β :=
  ⟨kept cut.first, cut.others.map fun (a, stretch) => (found a, kept stretch)⟩

/-- What is found, in order. -/
def finds (cut : Cut α) : List α :=
  cut.others.map Prod.fst

theorem IsScan.exists_stands {source : α → List Char} {stands : α → List Char → Prop}
    {begins : List Char → Prop} {cut : Cut α} (h : cut.IsScan source stands begins) {a : α}
    (ha : a ∈ cut.finds) : ∃ rest, stands a rest := by
  obtain ⟨⟨a, kept⟩, hpair, rfl⟩ := List.mem_map.mp ha
  obtain ⟨before, after, happ⟩ := List.append_of_mem hpair
  exact ⟨_, (h.found before a kept after happ.symm).1⟩

theorem text_found (f : α → List Char) (a : α) (kept : List Char) (others : List (α × List Char)) :
    text f ⟨[], (a, kept) :: others⟩ = f a ++ text f ⟨kept, others⟩ := by
  rw [text, tailText_cons, List.nil_append, text]

theorem exists_append_of_mem_finds (f : α → List Char) {a : α} {cut : Cut α}
    (h : a ∈ cut.finds) : ∃ before after, before ++ (f a ++ after) = cut.text f := by
  obtain ⟨⟨a, kept⟩, hpair, rfl⟩ := List.mem_map.mp h
  obtain ⟨left, right, happ⟩ := List.append_of_mem hpair
  refine ⟨cut.first ++ tailText f left, kept ++ tailText f right, ?_⟩
  simp [text, happ, tailText]

/-- Where everything found begins with a mark, the text from the first of it on does so too. -/
theorem head?_tailText {f : α → List Char} {mark : Char} {others : List (α × List Char)}
    (h : ∀ pair ∈ others, ∃ more, f pair.1 = mark :: more) :
    ∀ c ∈ (tailText f others).head?, c = mark := by
  cases others with
  | nil => simp
  | cons pair others =>
      obtain ⟨more, hmore⟩ := h pair (List.mem_cons_self ..)
      simp [tailText, hmore]

theorem text_map (found : α → β) (kept : List Char → List Char) (f : β → List Char)
    (cut : Cut α) : (cut.map found kept).text f = (cut.map id kept).text (f ∘ found) := by
  simp [map, text, tailText, List.flatMap_map]

theorem finds_map (found : α → β) (kept : List Char → List Char) (cut : Cut α) :
    (cut.map found kept).finds = cut.finds.map found := by
  simp [map, finds, Function.comp_def]

theorem map_map {γ : Type} (found : α → β) (found' : β → γ) (kept kept' : List Char → List Char)
    (cut : Cut α) :
    (cut.map found kept).map found' kept' = cut.map (found' ∘ found) (kept' ∘ kept) := by
  simp [map, Function.comp_def]

theorem map_id (cut : Cut α) : cut.map id id = cut := by
  simp [map]

theorem map_eq_map_iff {found found' : α → β} {kept : List Char → List Char} {cut : Cut α} :
    cut.map found kept = cut.map found' kept ↔ ∀ a ∈ cut.finds, found a = found' a := by
  simp [map, finds, List.map_inj_left]

/-- With a value for everything found, two cuts are equal if they are so without the values, and the
values are. -/
theorem map_pair_eq_iff {γ : Type} {value : α → γ} {found : α → β} {value' : β → γ}
    {kept : List Char → List Char} {cut : Cut α} {cut' : Cut β} :
    cut.map (fun a => (value a, found a)) kept = cut'.map (fun b => (value' b, b)) id ↔
      cut.map found kept = cut' ∧ ∀ a ∈ cut.finds, value a = value' (found a) := by
  have hvalues : (cut.map found kept).map (fun b => (value' b, b)) id =
      cut.map (fun a => (value' (found a), found a)) kept := map_map ..
  constructor
  · intro h
    have hcut : cut.map found kept = cut' := by
      have hfound := congrArg (map Prod.snd id) h
      rw [map_map, map_map] at hfound
      exact hfound.trans (map_id cut')
    rw [← hcut, hvalues, map_eq_map_iff] at h
    exact ⟨hcut, fun a ha => congrArg Prod.fst (h a ha)⟩
  · rintro ⟨rfl, h⟩
    rw [hvalues, map_eq_map_iff]
    intro a ha
    rw [h a ha]

/-- A filter that treats the stretches apart and passes over what is found. -/
theorem filter_text {filter : List Char → List Char} {f g : α → List Char} {cut : Cut α}
    (h : ∀ a ∈ cut.finds, ∀ kept rest,
      filter (kept ++ (f a ++ rest)) = filter kept ++ (g a ++ filter rest)) :
    filter (cut.text f) = (cut.map id filter).text g := by
  obtain ⟨first, others⟩ := cut
  induction others generalizing first with
  | nil => simp [map, text]
  | cons pair others ih =>
      obtain ⟨a, kept⟩ := pair
      have hothers := ih kept fun b hb => h b (List.mem_cons_of_mem _ hb)
      calc filter (text f ⟨first, (a, kept) :: others⟩)
          = filter (first ++ (f a ++ text f ⟨kept, others⟩)) := by rw [text, tailText_cons, text]
        _ = filter first ++ (g a ++ filter (text f ⟨kept, others⟩)) :=
            h a (List.mem_cons_self ..) _ _
        _ = filter first ++ (g a ++ (map id filter ⟨kept, others⟩).text g) := by rw [hothers]
        _ = (map id filter ⟨first, (a, kept) :: others⟩).text g := by
            rw [text, text, map, map, List.map_cons, tailText_cons, id]

end Map

end Cut

namespace Matcher

variable (m : Matcher α)

/-- What the matcher finds at the start of a text, in terms of the text: `stands` says what may be
found in front of a rest, and `begins` at which texts there is something to be found. -/
structure Recognises (stands : α → List Char → Prop) (begins : List Char → Prop) : Prop where
  at?_iff : ∀ {text a rest},
    m.at? text = some (a, rest) ↔ m.source a ++ rest = text ∧ stands a rest
  at?_eq_none_iff : ∀ {text}, m.at? text = none ↔ ¬ begins text

/-- The cut of a text at what the matcher finds from the left. -/
def cut (text : List Char) : Cut α :=
  Cut.ofPieces (m.pieces text)

@[simp] theorem cut_nil : m.cut [] = ⟨[], []⟩ := by
  rw [cut, m.pieces_nil]
  rfl

theorem cut_of_found {text : List Char} {a : α} {rest : List Char}
    (h : m.at? text = some (a, rest)) :
    m.cut text = ⟨[], (a, (m.cut rest).first) :: (m.cut rest).others⟩ := by
  rw [cut, m.pieces_of_found h]
  rfl

theorem cut_of_none {c : Char} {cs : List Char} (h : m.at? (c :: cs) = none) :
    m.cut (c :: cs) = ⟨c :: (m.cut cs).first, (m.cut cs).others⟩ := by
  rw [cut, m.pieces_of_none h]
  rfl

theorem replace_eq_cut_text (f : α → List Char) (text : List Char) :
    m.replace f text = (m.cut text).text f :=
  (Cut.text_ofPieces f _).symm

theorem cut_text_source (text : List Char) : (m.cut text).text m.source = text := by
  rw [cut, Cut.text_ofPieces]
  exact m.pieces_source text

variable {m} {stands : α → List Char → Prop} {begins : List Char → Prop}

/-- What `cut` finds stands there, and it passes over nothing. -/
theorem Recognises.isScan_cut (h : m.Recognises stands begins) (text : List Char) :
    (m.cut text).IsScan m.source stands begins := by
  fun_induction Matcher.pieces m text with
  | case1 =>
      rw [cut_nil]
      exact Cut.isScan_nil
  | case2 c cs a rest hfound _ ih =>
      have hrest : (m.cut rest).first ++ Cut.tailText m.source (m.cut rest).others = rest :=
        m.cut_text_source rest
      rw [m.cut_of_found hfound]
      refine Cut.isScan_found.mpr ⟨?_, ih⟩
      rw [hrest]
      exact (h.at?_iff.mp hfound).2
  | case3 c cs hnone ih =>
      have hcs : (m.cut cs).first ++ Cut.tailText m.source (m.cut cs).others = cs :=
        m.cut_text_source cs
      rw [m.cut_of_none hnone]
      refine Cut.isScan_kept.mpr ⟨?_, ih⟩
      rw [List.cons_append, hcs]
      exact h.at?_eq_none_iff.mp hnone

/-- Where a scan begins with something found, the matcher finds it too. -/
theorem Recognises.at?_of_isScan (h : m.Recognises stands begins) {text : List Char} {a : α}
    {kept : List Char} {others : List (α × List Char)}
    (htext : (⟨[], (a, kept) :: others⟩ : Cut α).text m.source = text)
    (hscan : Cut.IsScan m.source stands begins ⟨[], (a, kept) :: others⟩) :
    m.at? text = some (a, kept ++ Cut.tailText m.source others) := by
  refine h.at?_iff.mpr ⟨?_, (Cut.isScan_found.mp hscan).1⟩
  rw [← htext, Cut.text, List.nil_append, Cut.tailText_cons]

/-- A scan leaves no choice: from the left, it agrees with `cut` at every position. -/
theorem Recognises.eq_cut (h : m.Recognises stands begins) {text : List Char} {other : Cut α}
    (htext : other.text m.source = text) (hscan : other.IsScan m.source stands begins) :
    other = m.cut text := by
  obtain ⟨first, others⟩ := other
  fun_induction Matcher.pieces m text generalizing first others with
  | case1 =>
      cases first with
      | cons d first => cases htext
      | nil =>
          cases others with
          | nil => rw [cut_nil]
          | cons pair others =>
              have hlt := m.length_lt (h.at?_of_isScan htext hscan)
              exact absurd hlt (Nat.not_lt_zero _)
  | case2 c cs a rest hfound _ ih =>
      cases first with
      | cons d first =>
          have hquiet := (Cut.isScan_kept.mp hscan).1
          rw [show d :: first ++ Cut.tailText m.source others = c :: cs from htext] at hquiet
          rw [h.at?_eq_none_iff.mpr hquiet] at hfound
          cases hfound
      | nil =>
          cases others with
          | nil => cases htext
          | cons pair others =>
              obtain ⟨b, kept⟩ := pair
              have heq := h.at?_of_isScan htext hscan
              rw [hfound, Option.some.injEq, Prod.mk.injEq] at heq
              obtain ⟨rfl, hrest⟩ := heq
              have hcut := ih kept others hrest.symm (Cut.isScan_found.mp hscan).2
              rw [m.cut_of_found hfound, ← hcut]
  | case3 c cs hnone ih =>
      cases first with
      | nil =>
          cases others with
          | nil => cases htext
          | cons pair others =>
              have heq := h.at?_of_isScan htext hscan
              rw [hnone] at heq
              cases heq
      | cons d first =>
          obtain ⟨rfl, hcs⟩ := List.cons.inj htext
          have hcut := ih first others hcs (Cut.isScan_kept.mp hscan).2
          rw [m.cut_of_none hnone, ← hcut]

/-- Every text has exactly one scan. -/
theorem Recognises.existsUnique_scan (h : m.Recognises stands begins) (text : List Char) :
    ∃! cut : Cut α, cut.IsScanOf m.source stands begins text :=
  ⟨m.cut text, ⟨m.cut_text_source text, h.isScan_cut text⟩, fun _ hother =>
    h.eq_cut hother.1 hother.2⟩

/-- Replacing everything found keeps the stretches of the scan. -/
theorem Recognises.replace_eq (h : m.Recognises stands begins) (f : α → List Char)
    {text : List Char} {cut : Cut α} (hcut : cut.IsScanOf m.source stands begins text) :
    m.replace f text = cut.text f := by
  rw [h.eq_cut hcut.1 hcut.2]
  exact m.replace_eq_cut_text f text

end Matcher

end BookFilter.Text
