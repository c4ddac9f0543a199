import BookFilter.Proofs.Delimiters
import BookFilter.Proofs.Rendering
import BookFilter.Proofs.Spans
import Mathlib.Data.List.Forall2

/-!
# Matching up to case

Two texts that are the same up to case are gone through in step: at each place a marker or a note is
found in both or in neither, and it ends at the same place. White space and line feeds are no
exception, for they are the other case of nothing. Only the link of a badge, which the next release
has none of, depends on the case of a version.
-/

namespace BookFilter

namespace Text

/-- A code point stays as it is, or is moved along with a run that reaches over it. -/
theorem foldIn_eq_or_exists_run (runs : List FoldRun) (n : Nat) :
    foldIn runs n = n ∨ ∃ run ∈ runs, run.first ≤ n ∧ n ≤ run.last ∧
      foldIn runs n = run.target + (n - run.first) := by
  induction runs with
  | nil => exact .inl rfl
  | cons run runs ih =>
      simp only [foldIn]
      split
      · exact .inl rfl
      · split
        · next hcovers =>
            simp only [FoldRun.covers, Bool.and_eq_true, decide_eq_true_eq] at hcovers
            exact .inr ⟨run, List.mem_cons_self .., hcovers.1.1, hcovers.1.2, rfl⟩
        · rcases ih with heq | ⟨other, hother, hmoved⟩
          · exact .inl heq
          · exact .inr ⟨other, List.mem_cons_of_mem _ hother, hmoved⟩

/-- There is no white space among the code points that a run reaches over, nor among those that it
moves them to. -/
theorem foldRuns_avoid_whiteSpace : ∀ run ∈ foldRuns, ∀ blank ∈ whiteSpaceRuns,
    (run.last < blank.1 ∨ blank.2 < run.first) ∧
      (run.target + (run.last - run.first) < blank.1 ∨ blank.2 < run.target) := by
  decide +kernel

theorem foldsAlone_of_isWhiteSpace {d : Char} (h : isWhiteSpace d = true) : FoldsAlone d := by
  simp only [isWhiteSpace, List.any_eq_true, Bool.and_eq_true, decide_eq_true_eq] at h
  obtain ⟨blank, hblank, hfirst, hlast⟩ := h
  have hd : fold d = d.toNat := by
    rcases foldIn_eq_or_exists_run foldRuns d.toNat with heq | ⟨run, hrun, hlow, hhigh, -⟩
    · exact heq
    · have havoid := (foldRuns_avoid_whiteSpace run hrun blank hblank).1
      omega
  intro c heq
  rw [hd] at heq
  apply Char.toNat_inj.mp
  rcases foldIn_eq_or_exists_run foldRuns c.toNat with hc | ⟨run, hrun, hlow, hhigh, hmoved⟩
  · exact hc.symm.trans heq
  · have havoid := (foldRuns_avoid_whiteSpace run hrun blank hblank).2
    rw [show fold c = foldIn foldRuns c.toNat from rfl, hmoved] at heq
    omega

theorem isWhiteSpace_eq_of_fold_eq {c d : Char} (h : fold c = fold d) :
    isWhiteSpace c = isWhiteSpace d := by
  rw [Bool.eq_iff_iff]
  constructor
  · intro hc
    rwa [foldsAlone_of_isWhiteSpace hc d h.symm]
  · intro hd
    rwa [foldsAlone_of_isWhiteSpace hd c h]

section SameFold

variable {s t s' t' : List Char}

theorem SameFold.refl (s : List Char) : SameFold s s :=
  rfl

theorem sameFold_cons {c d : Char} :
    SameFold (c :: s) (d :: t) ↔ fold c = fold d ∧ SameFold s t := by
  rw [SameFold, List.map_cons, List.map_cons, List.cons.injEq, SameFold]

theorem sameFold_iff_forall₂ : SameFold s t ↔ List.Forall₂ (fun c d => fold c = fold d) s t := by
  rw [SameFold, ← List.forall₂_eq_eq_eq, List.forall₂_map_left_iff, List.forall₂_map_right_iff]

theorem SameFold.append (h : SameFold s t) (h' : SameFold s' t') :
    SameFold (s ++ s') (t ++ t') := by
  rw [SameFold, List.map_append, List.map_append, show s.map fold = t.map fold from h,
    show s'.map fold = t'.map fold from h']

/-- White space is left out of the comparison up to case. -/
theorem SameFold.isBlank_eq (h : SameFold s t) : isBlank s = isBlank t := by
  rw [isBlank, isBlank]
  induction sameFold_iff_forall₂.mp h with
  | nil => rfl
  | cons hfold hrest ih =>
      rw [List.all_cons, List.all_cons, isWhiteSpace_eq_of_fold_eq hfold,
        ih (sameFold_iff_forall₂.mpr hrest)]

end SameFold

/-- Related values, each with a text, where the texts are the same up to case. -/
def WithText {α β : Type} (R : α → β → Prop) (s : α × List Char) (t : β × List Char) : Prop :=
  R s.1 t.1 ∧ SameFold s.2 t.2

section Rel

variable {α β γ δ : Type} {R : α → β → Prop} {S : γ → δ → Prop} {x : Option α} {y : Option β}

/-- Of related results there are both or neither. -/
theorem rel_cases (h : Option.Rel R x y) :
    x = none ∧ y = none ∨ ∃ a b, x = some a ∧ y = some b ∧ R a b := by
  cases h with
  | none => exact .inl ⟨rfl, rfl⟩
  | some hab => exact .inr ⟨_, _, rfl, rfl, hab⟩

theorem rel_bind {f : α → Option γ} {g : β → Option δ} (h : Option.Rel R x y)
    (hfg : ∀ a b, R a b → Option.Rel S (f a) (g b)) : Option.Rel S (x.bind f) (y.bind g) := by
  cases h with
  | none => exact .none
  | some hab => exact hfg _ _ hab

theorem rel_map {f : α → γ} {g : β → δ} (h : Option.Rel R x y)
    (hfg : ∀ a b, R a b → S (f a) (g b)) : Option.Rel S (x.map f) (y.map g) := by
  cases h with
  | none => exact .none
  | some hab => exact .some (hfg _ _ hab)

theorem rel_or {x' : Option α} {y' : Option β} (h : Option.Rel R x y) (h' : Option.Rel R x' y') :
    Option.Rel R (x.or x') (y.or y') := by
  cases h with
  | none => exact h'
  | some hab => exact .some hab

end Rel

/-- A literal is read from the two texts in the same way. -/
theorem splitFolded?_rel {literal literal' text text' : List Char} (h : SameFold literal literal')
    (htext : SameFold text text') :
    Option.Rel (WithText SameFold) (splitFolded? literal text) (splitFolded? literal' text') := by
  rw [sameFold_iff_forall₂] at h
  induction h generalizing text text' with
  | nil => exact .some ⟨.refl _, htext⟩
  | cons hp _ ih =>
      cases sameFold_iff_forall₂.mp htext with
      | nil => exact .none
      | cons hc hcs =>
          rw [splitFolded?, splitFolded?, ← hp, ← hc]
          split
          · refine rel_map (ih (sameFold_iff_forall₂.mpr hcs)) ?_
            rintro ⟨matched, rest⟩ ⟨matched', rest'⟩ ⟨hmatched, hrest⟩
            exact ⟨sameFold_cons.mpr ⟨hc, hmatched⟩, hrest⟩
          · exact .none

/-- If the same positions are deleted, what is left is the same up to case. -/
theorem SameFold.withoutFrom {text text' : List Char} (h : SameFold text text') (spans : List Span)
    (i : Nat) : SameFold (withoutFrom spans i text) (withoutFrom spans i text') := by
  rw [sameFold_iff_forall₂] at h
  induction h generalizing i with
  | nil => exact .refl _
  | cons hc _ ih =>
      rw [Text.withoutFrom, Text.withoutFrom]
      split
      · exact ih (i + 1)
      · exact sameFold_cons.mpr ⟨hc, ih (i + 1)⟩

namespace Cut

variable {α β : Type} {source : α → List Char}

/-- Related finds between stretches that are the same up to case. -/
structure Alike (R : α → β → Prop) (cut : Cut α) (cut' : Cut β) : Prop where
  first : SameFold cut.first cut'.first
  others : List.Forall₂ (WithText R) cut.others cut'.others

variable {R : α → β → Prop} {cut : Cut α} {cut' : Cut β}

theorem Alike.finds (h : cut.Alike R cut') : List.Forall₂ R cut.finds cut'.finds := by
  rw [Cut.finds, Cut.finds, List.forall₂_map_left_iff, List.forall₂_map_right_iff]
  exact h.others.imp fun _ _ hpair => hpair.1

/-- With texts that are the same up to case in the place of the finds, so are the whole texts. -/
theorem Alike.text {f : α → List Char} {g : β → List Char} (h : cut.Alike R cut')
    (hfinds : List.Forall₂ (fun a b => SameFold (f a) (g b)) cut.finds cut'.finds) :
    SameFold (cut.text f) (cut'.text g) := by
  have htail : ∀ {others : List (α × List Char)} {others' : List (β × List Char)},
      List.Forall₂ (WithText R) others others' →
      List.Forall₂ (fun a b => SameFold (f a) (g b)) (others.map Prod.fst)
        (others'.map Prod.fst) →
      SameFold (tailText f others) (tailText g others') := by
    intro others others' hothers
    induction hothers with
    | nil => exact fun _ => .refl _
    | cons hpair _ ih =>
        intro hmap
        obtain ⟨hhead, hrest⟩ := List.forall₂_cons.mp hmap
        rw [tailText_cons, tailText_cons]
        exact hhead.append (hpair.2.append (ih hrest))
  exact h.first.append (htail h.others hfinds)

/-- Finds of the same lengths between stretches of the same lengths are at the same places. -/
theorem Alike.placed {source' : β → List Char} (h : cut.Alike R cut')
    (hsource : ∀ a b, R a b → (source a).length = (source' b).length) :
    List.Forall₂ (fun s t => s.1 = t.1 ∧ R s.2 t.2) (cut.placed source) (cut'.placed source') := by
  have htail : ∀ {others : List (α × List Char)} {others' : List (β × List Char)} (start : Nat),
      List.Forall₂ (WithText R) others others' →
      List.Forall₂ (fun s t => s.1 = t.1 ∧ R s.2 t.2) (placedFrom source start others)
        (placedFrom source' start others') := by
    intro others others' start hothers
    induction hothers generalizing start with
    | nil => exact .nil
    | cons hpair _ ih =>
        rw [placedFrom, placedFrom, hsource _ _ hpair.1, hpair.2.length_eq]
        exact .cons ⟨rfl, hpair.1⟩ (ih _)
  rw [Cut.placed, Cut.placed, h.first.length_eq]
  exact htail _ h.others

/-- A value that depends on the place of a find and on what related finds share is the same for
both cuts. -/
theorem Alike.map_placed_eq {γ : Type} {source' : β → List Char} (h : cut.Alike R cut')
    (hsource : ∀ a b, R a b → (source a).length = (source' b).length) {f : Nat × α → γ}
    {g : Nat × β → γ} (hfg : ∀ start a b, R a b → f (start, a) = g (start, b)) :
    (cut.placed source).map f = (cut'.placed source').map g := by
  rw [← List.forall₂_eq_eq_eq, List.forall₂_map_left_iff, List.forall₂_map_right_iff]
  refine (h.placed hsource).imp ?_
  rintro ⟨start, a⟩ ⟨start', b⟩ ⟨rfl, hab⟩
  exact hfg start a b hab

theorem Alike.spans_eq {source' : β → List Char} (h : cut.Alike R cut')
    (hsource : ∀ a b, R a b → (source a).length = (source' b).length) :
    cut.spans source = cut'.spans source' := by
  refine h.map_placed_eq hsource ?_
  intro start a b hab
  exact congrArg (Span.mk start) (hsource a b hab)

end Cut

namespace Matcher

variable {α β : Type} {R : α → β → Prop} {m : Matcher α} {m' : Matcher β}

/-- At the start of texts that are the same up to case, the matchers find related things before
rests that are so too, or nothing. -/
def Alike (R : α → β → Prop) (m : Matcher α) (m' : Matcher β) : Prop :=
  ∀ text text', SameFold text text' → Option.Rel (WithText R) (m.at? text) (m'.at? text')

/-- The matchers go through texts that are the same up to case in step. -/
theorem Alike.cut (h : m.Alike R m') {text text' : List Char} (htext : SameFold text text') :
    (m.cut text).Alike R (m'.cut text') := by
  fun_induction Matcher.pieces m text generalizing text' with
  | case1 =>
      cases text' with
      | nil =>
          rw [cut_nil, cut_nil]
          exact ⟨.refl _, .nil⟩
      | cons c' cs' => cases htext
  | case2 c cs a rest hfound _ ih =>
      rcases rel_cases (h _ _ htext) with ⟨hnone, -⟩ | ⟨_, ⟨b, rest'⟩, hsome, hfound', hpair⟩
      · rw [hfound] at hnone
        cases hnone
      · rw [hfound] at hsome
        cases hsome
        have hrest := ih hpair.2
        rw [m.cut_of_found hfound, m'.cut_of_found hfound']
        exact ⟨.refl _, .cons ⟨hpair.1, hrest.first⟩ hrest.others⟩
  | case3 c cs hnone ih =>
      rcases rel_cases (h _ _ htext) with ⟨-, hnone'⟩ | ⟨_, _, hsome, -⟩
      · cases text' with
        | nil => cases htext
        | cons c' cs' =>
            obtain ⟨hc, hcs⟩ := sameFold_cons.mp htext
            have hrest := ih hcs
            rw [m.cut_of_none hnone, m'.cut_of_none hnone']
            exact ⟨sameFold_cons.mpr ⟨hc, hrest.first⟩, hrest.others⟩
      · rw [hnone] at hsome
        cases hsome

end Matcher

end Text

open Text

/-- The names are the same up to case, one by one. -/
def SameNames (names others : List String) : Prop :=
  List.Forall₂ (fun name other => SameFold name.toList other.toList) names others

/-- Names that are the same up to case have the same markers up to case. -/
theorem markers_alike {names others : List String} (h : SameNames names others) :
    (markers (names.map String.toList)).Alike SameFold (markers (others.map String.toList)) := by
  intro text text' htext
  change Option.Rel _ (marker? _ text) (marker? _ text')
  rw [marker?_eq_findSome?, marker?_eq_findSome?]
  induction h with
  | nil => exact .none
  | @cons name other names others hname _ ih =>
      have hmarker : SameFold (',' :: name.toList) (',' :: other.toList) :=
        sameFold_cons.mpr ⟨rfl, hname⟩
      rw [List.map_cons, List.map_cons, List.findSome?_cons, List.findSome?_cons]
      rcases rel_cases (splitFolded?_rel hmarker htext) with
        ⟨hnone, hnone'⟩ | ⟨found, found', hsome, hsome', hpair⟩
      · rw [hnone, hnone']
        exact ih
      · rw [hsome, hsome']
        exact .some hpair

namespace MarkerStripper

/-- Of names that are the same up to case, the same ones are blank. -/
theorem findIdx?_isBlank_eq {names others : List String} (h : SameNames names others) :
    names.findIdx? (fun name => isBlank name.toList) =
      others.findIdx? (fun name => isBlank name.toList) := by
  induction h with
  | nil => rfl
  | cons hname _ ih => rw [List.findIdx?_cons, List.findIdx?_cons, hname.isBlank_eq, ih]

end MarkerStripper

namespace VersionNote

/-- The notes agree up to case, part by part. -/
structure Alike (note note' : VersionNote) : Prop where
  tag : SameFold note.tag note'.tag
  preposition : SameFold note.preposition note'.preposition
  separator : SameFold note.separator note'.separator
  version : SameFold note.version note'.version
  closer : SameFold note.closer note'.closer

theorem Alike.source {note note' : VersionNote} (h : note.Alike note') :
    SameFold note.source note'.source :=
  (((h.tag.append h.preposition).append h.separator).append h.version).append h.closer

theorem opener?_rel {text text' : List Char} (h : SameFold text text') :
    Option.Rel (fun s t => SameFold s.1 t.1 ∧ SameFold s.2.1 t.2.1 ∧ WithText SameFold s.2.2 t.2.2)
      (opener? text) (opener? text') := by
  refine rel_bind (splitFolded?_rel (.refl _) h) ?_
  rintro ⟨tag, text⟩ ⟨tag', text'⟩ ⟨htag, htext⟩
  refine rel_bind (rel_or (splitFolded?_rel (.refl _) htext) (splitFolded?_rel (.refl _) htext)) ?_
  rintro ⟨preposition, text⟩ ⟨preposition', text'⟩ ⟨hpreposition, htext⟩
  refine rel_bind (splitFolded?_rel (.refl _) htext) ?_
  rintro ⟨separator, text⟩ ⟨separator', text'⟩ hrest
  exact .some ⟨htag, hpreposition, hrest⟩

/-- Lines end at the same places, for nothing else is a line feed up to case. -/
theorem version?_rel {text text' : List Char} (h : SameFold text text') :
    Option.Rel (fun s t => SameFold s.1 t.1 ∧ WithText SameFold s.2 t.2)
      (version? text) (version? text') := by
  induction sameFold_iff_forall₂.mp h with
  | nil => exact .none
  | @cons c c' cs cs' hc hcs ih =>
      have hrest : SameFold cs cs' := sameFold_iff_forall₂.mpr hcs
      have htext : SameFold (c :: cs) (c' :: cs') := sameFold_cons.mpr ⟨hc, hrest⟩
      have hline : c = '\n' ↔ c' = '\n' := by
        constructor
        · rintro rfl
          exact foldsAlone_lineFeed c' hc.symm
        · rintro rfl
          exact foldsAlone_lineFeed c hc
      rw [version?, version?]
      rcases rel_cases (splitFolded?_rel (.refl "</sup>".toList) htext) with
        ⟨hnone, hnone'⟩ | ⟨found, found', hsome, hsome', hpair⟩
      · rw [hnone, hnone']
        simp only [hline]
        split
        · exact .none
        · refine rel_map (ih hrest) ?_
          rintro ⟨version, closer, rest⟩ ⟨version', closer', rest'⟩ ⟨hversion, hrest⟩
          exact ⟨sameFold_cons.mpr ⟨hc, hversion⟩, hrest⟩
      · rw [hsome, hsome']
        exact .some ⟨.refl _, hpair⟩

end VersionNote

theorem versionNotes_alike : versionNotes.Alike VersionNote.Alike versionNotes := by
  intro text text' htext
  refine rel_bind (VersionNote.opener?_rel htext) ?_
  rintro ⟨tag, preposition, separator, text⟩ ⟨tag', preposition', separator', text'⟩
    ⟨htag, hpreposition, hseparator, htext⟩
  refine rel_bind (VersionNote.version?_rel htext) ?_
  rintro ⟨version, closer, rest⟩ ⟨version', closer', rest'⟩ ⟨hversion, hcloser, hrest⟩
  exact .some ⟨⟨htag, hpreposition, hseparator, hversion, hcloser⟩, hrest⟩

/-- The positions of a note and of the two parts of it that are put into a badge. -/
structure NoteSpans where
  whole : Span
  preposition : Span
  version : Span
deriving DecidableEq

namespace VersionNote

/-- The positions of a note that begins at `start`. -/
def spansFrom (start : Nat) (note : VersionNote) : NoteSpans where
  whole := ⟨start, note.source.length⟩
  preposition := ⟨start + note.tag.length, note.preposition.length⟩
  version := ⟨start + note.tag.length + note.preposition.length + note.separator.length,
    note.version.length⟩

theorem Alike.spansFrom_eq {note note' : VersionNote} (h : note.Alike note') (start : Nat) :
    note.spansFrom start = note'.spansFrom start := by
  rw [spansFrom, spansFrom, h.source.length_eq, h.tag.length_eq, h.preposition.length_eq,
    h.separator.length_eq, h.version.length_eq]

/-- The positions of the notes that a text is cut at. -/
def spans (cut : Cut VersionNote) : List NoteSpans :=
  (cut.placed source).map fun (start, note) => note.spansFrom start

/-- The version is the one that has no release to link to, in exactly this case. -/
def IsNextRelease (note : VersionNote) : Prop :=
  note.version = "next release".toList

instance (note : VersionNote) : Decidable note.IsNextRelease :=
  inferInstanceAs (Decidable (note.version = "next release".toList))

theorem Alike.badgeText {note note' : VersionNote} (h : note.Alike note')
    (hnext : note.IsNextRelease ↔ note'.IsNextRelease) (address : List Char) :
    SameFold (BadgeRenderer.badgeText address note) (BadgeRenderer.badgeText address note') := by
  unfold BadgeRenderer.badgeText
  by_cases hnote : note.version = "next release".toList
  · have hnote' : note'.version = "next release".toList := hnext.mp hnote
    rw [if_pos hnote, if_pos hnote']
    exact ((((SameFold.refl _).append h.preposition).append (.refl _)).append h.version).append
      (.refl _)
  · have hnote' : ¬ note'.version = "next release".toList := mt hnext.mpr hnote
    rw [if_neg hnote, if_neg hnote']
    exact ((((((((SameFold.refl _).append h.preposition).append (.refl _)).append
      h.version).append (.refl _)).append (.refl _)).append (.refl _)).append h.version).append
      (.refl _)

end VersionNote

/-- Stripping names that are the same up to case from texts that are so too deletes the same
positions. -/
theorem MarkerStripper.spans_eq_of_sameFold (stripper other : MarkerStripper)
    (h : SameNames stripper.names other.names) {text copy : String}
    (htext : SameFold text.toList copy.toList) :
    ∃ cut cut', IsCutAtMarkers stripper.names text cut ∧ IsCutAtMarkers other.names copy cut' ∧
      cut'.spans id = cut.spans id ∧
      (stripper.strip text).toList = without (cut.spans id) text.toList ∧
      (other.strip copy).toList = without (cut.spans id) copy.toList ∧
      SameFold (stripper.strip text).toList (other.strip copy).toList := by
  obtain ⟨cut, hcut, -⟩ := existsUnique_cut stripper text
  obtain ⟨cut', hcut', -⟩ := existsUnique_cut other copy
  have halike : cut.Alike SameFold cut' := by
    rw [(markers_recognises _).eq_cut hcut.1 hcut.2, (markers_recognises _).eq_cut hcut'.1 hcut'.2]
    exact (markers_alike h).cut htext
  have hspans : cut.spans id = cut'.spans id := halike.spans_eq fun _ _ h => h.length_eq
  have hstrip : ∀ {stripper : MarkerStripper} {text : String} {cut : Cut (List Char)},
      IsCutAtMarkers stripper.names text cut →
        (stripper.strip text).toList = without (cut.spans id) text.toList := by
    intro stripper text cut hcut
    rw [strip_eq_stretches hcut, ← Cut.text_erased, ← Cut.without_spans id, hcut.1]
  have hcopy : (other.strip copy).toList = without (cut.spans id) copy.toList := by
    rw [hstrip hcut', hspans]
  refine ⟨cut, cut', hcut, hcut', hspans.symm, hstrip hcut, hcopy, ?_⟩
  rw [hstrip hcut, hcopy]
  exact htext.withoutFrom _ 0

/-- The notes of texts that are the same up to case are at the same positions, with their parts. -/
theorem BadgeRenderer.spans_eq_of_sameFold {text copy : String}
    (htext : SameFold text.toList copy.toList) :
    ∃ cut cut', IsCutAtNotes text cut ∧ IsCutAtNotes copy cut' ∧
      VersionNote.spans cut' = VersionNote.spans cut ∧
      List.Forall₂ VersionNote.Alike cut.finds cut'.finds ∧
      ∀ renderer : BadgeRenderer,
        (renderer.render text).toList = cut.text (badgeText renderer.repository.toList) ∧
        (renderer.render copy).toList = cut'.text (badgeText renderer.repository.toList) ∧
        (List.Forall₂ (fun note note' => note.IsNextRelease ↔ note'.IsNextRelease)
            cut.finds cut'.finds →
          SameFold (renderer.render text).toList (renderer.render copy).toList) := by
  obtain ⟨cut, hcut, -⟩ := existsUnique_cut text
  obtain ⟨cut', hcut', -⟩ := existsUnique_cut copy
  have halike : cut.Alike VersionNote.Alike cut' := by
    rw [versionNotes_recognises.eq_cut hcut.1 hcut.2,
      versionNotes_recognises.eq_cut hcut'.1 hcut'.2]
    exact versionNotes_alike.cut htext
  refine ⟨cut, cut', hcut, hcut', ?_, halike.finds, fun renderer =>
    ⟨render_eq_badges renderer hcut, render_eq_badges renderer hcut', ?_⟩⟩
  · symm
    exact halike.map_placed_eq (fun _ _ h => h.source.length_eq) fun start _ _ h =>
      h.spansFrom_eq start
  · intro hnext
    rw [render_eq_badges renderer hcut, render_eq_badges renderer hcut']
    exact halike.text (halike.finds.mp (fun _ _ hnote hnext => hnote.badgeText hnext _) hnext)

/-- For lists of names that are the same up to case: both are taken, and from texts that are the
same up to case the same positions are deleted, those of the markers, so that the results are so
too; or both are refused for the name of one number. In such texts the version notes, their
prepositions and their versions are at the same positions, and where the versions that are exactly
`next release` are so in both, the rendered texts are the same up to case. -/
theorem spans_eq_up_to_case (names others : List String) (hnames : SameNames names others) :
    ((∃ stripper other, MarkerStripper.ofNames names = .ok stripper ∧
        MarkerStripper.ofNames others = .ok other ∧
        ∀ text copy : String, SameFold text.toList copy.toList →
          ∃ cut cut', MarkerStripper.IsCutAtMarkers names text cut ∧
            MarkerStripper.IsCutAtMarkers others copy cut' ∧
            cut'.spans id = cut.spans id ∧
            (stripper.strip text).toList = without (cut.spans id) text.toList ∧
            (other.strip copy).toList = without (cut.spans id) copy.toList ∧
            SameFold (stripper.strip text).toList (other.strip copy).toList) ∨
      ∃ refusal, MarkerStripper.ofNames names = .error refusal ∧
        MarkerStripper.ofNames others = .error refusal) ∧
    ∀ text copy : String, SameFold text.toList copy.toList →
      ∃ cut cut', BadgeRenderer.IsCutAtNotes text cut ∧ BadgeRenderer.IsCutAtNotes copy cut' ∧
        VersionNote.spans cut' = VersionNote.spans cut ∧
        List.Forall₂ VersionNote.Alike cut.finds cut'.finds ∧
        ∀ renderer : BadgeRenderer,
          (renderer.render text).toList =
            cut.text (BadgeRenderer.badgeText renderer.repository.toList) ∧
          (renderer.render copy).toList =
            cut'.text (BadgeRenderer.badgeText renderer.repository.toList) ∧
          (List.Forall₂ (fun note note' => note.IsNextRelease ↔ note'.IsNextRelease)
              cut.finds cut'.finds →
            SameFold (renderer.render text).toList (renderer.render copy).toList) := by
  refine ⟨?_, fun text copy htext => BadgeRenderer.spans_eq_of_sameFold htext⟩
  have hsame := MarkerStripper.findIdx?_isBlank_eq hnames
  cases hfind : names.findIdx? fun name => isBlank name.toList with
  | none =>
      have hfind' := hsame.symm.trans hfind
      rw [List.findIdx?_eq_none_iff] at hfind hfind'
      refine .inl ⟨.named names hfind, .named others hfind', MarkerStripper.ofNames_eq_ok hfind,
        MarkerStripper.ofNames_eq_ok hfind', ?_⟩
      intro text copy htext
      exact MarkerStripper.spans_eq_of_sameFold (.named names hfind) (.named others hfind') hnames htext
  | some i =>
      exact .inr ⟨⟨i + 1⟩, MarkerStripper.ofNames_eq_error_iff_findIdx?.mpr ⟨i, hfind, rfl⟩,
        MarkerStripper.ofNames_eq_error_iff_findIdx?.mpr ⟨i, hsame.symm.trans hfind, rfl⟩⟩

/-- The long s and the sign of the unit kelvin are letters in another case: both names are found at
the same positions, and so is the note. -/
theorem spans_eq_up_to_case_long_s :
    SameNames ["must-fail", "k"] ["MU\u017FT-FAIL", "\u212A"] ∧
      (∃ stripper other, MarkerStripper.ofNames ["must-fail", "k"] = .ok stripper ∧
        MarkerStripper.ofNames ["MU\u017FT-FAIL", "\u212A"] = .ok other ∧
        SameFold "rust,must-fail,K".toList "RU\u017FT,MUST-FAIL,\u212A".toList ∧
        SameFold (stripper.strip "rust,must-fail,K").toList
          (other.strip "RU\u017FT,MUST-FAIL,\u212A").toList) ∧
      SameFold "<sup>Since: 25.02</sup>".toList "<\u017FUP>\u017FINCE: 25.02</SUP>".toList ∧
      SameFold (BadgeRenderer.default.render "<sup>Since: 25.02</sup>").toList
        (BadgeRenderer.default.render "<\u017FUP>\u017FINCE: 25.02</SUP>").toList := by
  have hnames : SameNames ["must-fail", "k"] ["MU\u017FT-FAIL", "\u212A"] :=
    .cons (by decide +kernel) (.cons (by decide +kernel) .nil)
  obtain ⟨hstrip, hrender⟩ := spans_eq_up_to_case _ _ hnames
  have htext : SameFold "rust,must-fail,K".toList "RU\u017FT,MUST-FAIL,\u212A".toList := by
    decide +kernel
  have hnote :
      SameFold "<sup>Since: 25.02</sup>".toList "<\u017FUP>\u017FINCE: 25.02</SUP>".toList := by
    decide +kernel
  refine ⟨hnames, ?_, hnote, ?_⟩
  · rcases hstrip with ⟨stripper, other, hok, hok', hstrip⟩ | ⟨refusal, hrefused, -⟩
    · obtain ⟨-, -, -, -, -, -, -, hsame⟩ := hstrip _ _ htext
      exact ⟨stripper, other, hok, hok', htext, hsame⟩
    · rw [MarkerStripper.ofNames_eq_ok (by decide)] at hrefused
      cases hrefused
  · obtain ⟨cut, cut', hcut, hcut', -, -, hbadges⟩ := hrender _ _ hnote
    refine (hbadges .default).2.2 ?_
    have hat : versionNotes.at? "<sup>Since: 25.02</sup>".toList = some (⟨"<sup>".toList,
        "Since".toList, ": ".toList, "25.02".toList, "</sup>".toList⟩, []) := by
      decide +kernel
    have hat' : versionNotes.at? "<\u017FUP>\u017FINCE: 25.02</SUP>".toList = some
        (⟨"<\u017FUP>".toList, "\u017FINCE".toList, ": ".toList, "25.02".toList,
          "</SUP>".toList⟩, []) := by
      decide +kernel
    rw [versionNotes_recognises.eq_cut hcut.1 hcut.2,
      versionNotes_recognises.eq_cut hcut'.1 hcut'.2, Matcher.cut_of_found _ hat,
      Matcher.cut_of_found _ hat', Matcher.cut_nil]
    exact .cons (iff_of_false (by decide +kernel) (by decide +kernel)) .nil

end BookFilter
