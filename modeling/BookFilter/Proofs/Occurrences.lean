import BookFilter.Proofs.Rendering
import BookFilter.Proofs.Stripping
import Mathlib.Data.List.Infix

/-!
# Texts that a hook changes

A hook changes a text exactly if there is something in the text for it to find. Every marker that is
deleted makes the text shorter, and every badge is longer than its note, so a text with a find in it
never comes out as it was, whatever stands around the find.
-/

namespace BookFilter

namespace Text

variable {α : Type}

/-- Something begins at a position of the text. -/
def Occurs (begins : List Char → Prop) (text : List Char) : Prop :=
  ∃ before after, before ++ after = text ∧ begins after

theorem occurs_iff_exists_mem_tails {begins : List Char → Prop} {text : List Char} :
    Occurs begins text ↔ ∃ after ∈ text.tails, begins after := by
  simp only [List.mem_tails, Occurs]
  constructor
  · rintro ⟨before, after, happ, hbegins⟩
    exact ⟨after, ⟨before, happ⟩, hbegins⟩
  · rintro ⟨after, ⟨before, happ⟩, hbegins⟩
    exact ⟨before, after, happ, hbegins⟩

instance (begins : List Char → Prop) [DecidablePred begins] (text : List Char) :
    Decidable (Occurs begins text) :=
  decidable_of_iff _ occurs_iff_exists_mem_tails.symm

namespace Cut

/-- Unless something begins at the end of a text, nothing begins at its positions exactly if nothing
occurs in it. -/
theorem quiet_iff_not_occurs {begins : List Char → Prop} (hnil : ¬ begins []) {text : List Char} :
    Quiet begins text [] ↔ ¬ Occurs begins text := by
  constructor
  · rintro hquiet ⟨before, after, happ, hbegins⟩
    have hne : after ≠ [] := by
      rintro rfl
      exact hnil hbegins
    apply hquiet before after happ hne
    rwa [List.append_nil]
  · intro hnot before after happ _ hbegins
    exact hnot ⟨before, after, happ, by rwa [List.append_nil] at hbegins⟩

/-- Where every replacement is longer by a number of characters, a text is longer by that number
for each of them. -/
theorem length_tailText_add_le {f g : α → List Char} (more : Nat)
    {others : List (α × List Char)}
    (h : ∀ pair ∈ others, (f pair.1).length + more ≤ (g pair.1).length) :
    (tailText f others).length + more * others.length ≤ (tailText g others).length := by
  induction others with
  | nil => exact Nat.le_refl 0
  | cons pair others ih =>
      have hpair := h pair (List.mem_cons_self ..)
      have hothers := ih fun other hother => h other (List.mem_cons_of_mem _ hother)
      rw [tailText_cons, tailText_cons, List.length_cons, Nat.mul_succ]
      simp only [List.length_append]
      omega

/-- Where everything found is replaced by something longer, the text gets longer. -/
theorem length_text_lt {f g : α → List Char} {cut : Cut α} (hne : cut.others ≠ [])
    (h : ∀ a ∈ cut.finds, (f a).length < (g a).length) :
    (cut.text f).length < (cut.text g).length := by
  have hpairs : ∀ pair ∈ cut.others, (f pair.1).length + 1 ≤ (g pair.1).length :=
    fun pair hpair => h pair.1 (List.mem_map_of_mem hpair)
  have hle := length_tailText_add_le 1 hpairs
  have hpos := List.length_pos_of_ne_nil hne
  simp only [text, List.length_append]
  omega

end Cut

namespace Matcher

variable {m : Matcher α} {stands : α → List Char → Prop} {begins : List Char → Prop}

theorem Recognises.begins_iff (h : m.Recognises stands begins) {text : List Char} :
    begins text ↔ (m.at? text).isSome = true := by
  rw [← Option.ne_none_iff_isSome, ne_eq, h.at?_eq_none_iff, not_not]

theorem Recognises.not_begins_nil (h : m.Recognises stands begins) : ¬ begins [] := by
  rw [h.begins_iff, Option.isSome_iff_exists]
  rintro ⟨⟨a, rest⟩, hfound⟩
  exact absurd (m.length_lt hfound) (Nat.not_lt_zero _)

/-- Whether something occurs in a text can be seen by looking at each of its positions. -/
def Recognises.decidableOccurs (h : m.Recognises stands begins) (text : List Char) :
    Decidable (Occurs begins text) :=
  decidable_of_iff (∃ after ∈ text.tails, (m.at? after).isSome = true) <| by
    simp only [occurs_iff_exists_mem_tails, h.begins_iff]

/-- Nothing is found in a text exactly if nothing begins anywhere in it. -/
theorem Recognises.others_cut_eq_nil_iff (h : m.Recognises stands begins) (text : List Char) :
    (m.cut text).others = [] ↔ ¬ Occurs begins text := by
  rw [← Cut.quiet_iff_not_occurs h.not_begins_nil]
  constructor
  · intro hnil
    have htext : (m.cut text).first = text := by
      have hsource := m.cut_text_source text
      rwa [Cut.text, hnil, Cut.tailText_nil, List.append_nil] at hsource
    have hquiet := (h.isScan_cut text).first_quiet
    rwa [htext, hnil, Cut.tailText_nil] at hquiet
  · intro hquiet
    have hscan : (⟨text, []⟩ : Cut α).IsScan m.source stands begins := ⟨hquiet, by simp⟩
    have htext : (⟨text, []⟩ : Cut α).text m.source = text := List.append_nil text
    rw [← h.eq_cut htext hscan]

/-- A replacement that is always longer, or always shorter, than what is found leaves a text as it is
exactly if nothing occurs in it. -/
theorem Recognises.replace_eq_self_iff (h : m.Recognises stands begins) {f : α → List Char}
    {text : List Char}
    (hf : (∀ a ∈ (m.cut text).finds, (f a).length < (m.source a).length) ∨
      ∀ a ∈ (m.cut text).finds, (m.source a).length < (f a).length) :
    m.replace f text = text ↔ ¬ Occurs begins text := by
  rw [← h.others_cut_eq_nil_iff, m.replace_eq_cut_text]
  have hsource := m.cut_text_source text
  constructor
  · intro heq
    by_contra hne
    have hlength : ((m.cut text).text f).length = ((m.cut text).text m.source).length := by
      rw [heq, hsource]
    rcases hf with hshorter | hlonger
    · exact absurd hlength (Nat.ne_of_lt (Cut.length_text_lt hne hshorter))
    · exact absurd hlength (Nat.ne_of_gt (Cut.length_text_lt hne hlonger))
  · intro hnil
    calc (m.cut text).text f
        = (m.cut text).text m.source := by simp only [Cut.text, hnil, Cut.tailText_nil]
      _ = text := hsource

end Matcher

end Text

open Text

/-- A marker of one of the names stands in the text, wherever it is and in any case. -/
def HasMarker (names : List String) (text : String) : Prop :=
  Occurs (BeginsWithAnyMarker (names.map String.toList)) text.toList

/-- An opener of a version note stands in the text, with a closing tag after it on its line. -/
def HasNote (text : String) : Prop :=
  Occurs VersionNote.BeginsNote text.toList

instance (names : List String) (text : String) : Decidable (HasMarker names text) :=
  (markers_recognises _).decidableOccurs _

instance (text : String) : Decidable (HasNote text) :=
  versionNotes_recognises.decidableOccurs _

/-- Stripping changes a text exactly if there is a marker in it. -/
theorem MarkerStripper.strip_eq_self_iff (stripper : MarkerStripper) (text : String) :
    stripper.strip text = text ↔ ¬ HasMarker stripper.names text := by
  rw [← String.toList_inj, strip, String.toList_ofList, stripChars_eq, HasMarker]
  apply (markers_recognises _).replace_eq_self_iff
  refine Or.inl fun marker hmarker => ?_
  obtain ⟨rest, before, name, after, -, hfold, -⟩ :=
    ((markers_recognises _).isScan_cut text.toList).exists_stands hmarker
  change 0 < marker.length
  rw [← hfold.length_eq]
  exact Nat.succ_pos _

namespace BadgeRenderer

/-- A badge is longer than its note, for the tags around it are longer. -/
theorem length_source_lt_badgeText (address : List Char) {note : VersionNote} {rest : List Char}
    (h : note.IsNoteBefore rest) : note.source.length < (badgeText address note).length := by
  have htag : note.tag.length = 5 := h.1.tag_eq.length_eq.symm
  have hseparator : note.separator.length = 2 := h.1.separator_eq.length_eq.symm
  have hcloser : note.closer.length = 6 := h.2.closer_eq.length_eq.symm
  have hplain : "<span class=\"badge\">".toList.length = 20 := rfl
  have hlink : "<span class=\"badge\">[".toList.length = 21 := rfl
  have hsource : note.source.length = 13 + note.preposition.length + note.version.length := by
    simp only [VersionNote.source, List.length_append, htag, hseparator, hcloser]
    omega
  rw [hsource]
  by_cases hnext : note.version = "next release".toList
  · rw [badgeText, if_pos hnext]
    simp only [List.length_append, hplain]
    omega
  · rw [badgeText, if_neg hnext]
    simp only [List.length_append, hlink]
    omega

/-- Rendering changes a text exactly if there is a version note in it. -/
theorem render_eq_self_iff (renderer : BadgeRenderer) (text : String) :
    renderer.render text = text ↔ ¬ HasNote text := by
  rw [← String.toList_inj, render, String.toList_ofList, renderChars, HasNote]
  apply versionNotes_recognises.replace_eq_self_iff
  refine Or.inr fun note hnote => ?_
  obtain ⟨rest, hstands⟩ :=
    (versionNotes_recognises.isScan_cut text.toList).exists_stands hnote
  rw [badgeChars_eq_badgeText]
  exact length_source_lt_badgeText _ hstands

end BadgeRenderer

end BookFilter
