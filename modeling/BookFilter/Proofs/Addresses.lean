import BookFilter.Proofs.Occurrences
import Mathlib.Data.List.DropRight

/-!
# Where the address of the repository shows

A badge with a link has the address of the repository in it once, a badge without a link not at all.
Addresses of different length give pages of different length, and addresses of one length differ in
the same place of a page, so a page with a link tells the address, up to slashes at its end. A page
without links tells nothing about it.
-/

namespace BookFilter

open Text

namespace Text.Cut

variable {α : Type} {f g : α → List Char}

/-- If nothing is replaced by something shorter than its other replacement, two replacements that
make up one text agree piece by piece, for their lengths cannot make up for each other. -/
theorem eq_of_tailText_eq {others : List (α × List Char)}
    (h : ∀ pair ∈ others, (f pair.1).length ≤ (g pair.1).length)
    (htext : tailText f others = tailText g others) : ∀ pair ∈ others, f pair.1 = g pair.1 := by
  induction others with
  | nil => simp
  | cons pair others ih =>
      have hpair := h pair (List.mem_cons_self ..)
      have hothers : ∀ other ∈ others, (f other.1).length ≤ (g other.1).length :=
        fun other hother => h other (List.mem_cons_of_mem _ hother)
      rw [tailText_cons, tailText_cons] at htext
      have hlength : (f pair.1).length = (g pair.1).length := by
        have hle := length_tailText_add_le 0 hothers
        have hsame := congrArg List.length htext
        simp only [List.length_append] at hsame
        omega
      obtain ⟨hfirst, hrest⟩ := List.append_inj htext hlength
      have hmore := ih hothers (List.append_cancel_left hrest)
      rintro other (- | ⟨-, hother⟩)
      · exact hfirst
      · exact hmore other hother

theorem text_congr {cut : Cut α} (h : ∀ a ∈ cut.finds, f a = g a) : cut.text f = cut.text g := by
  have hothers : tailText f cut.others = tailText g cut.others := by
    apply List.flatMap_congr
    rintro ⟨a, kept⟩ hpair
    exact congrArg (· ++ kept) (h a (List.mem_map_of_mem hpair))
  rw [text, text, hothers]

theorem text_eq_text_iff {cut : Cut α} (h : ∀ a ∈ cut.finds, (f a).length ≤ (g a).length) :
    cut.text f = cut.text g ↔ ∀ a ∈ cut.finds, f a = g a := by
  constructor
  · intro htext a ha
    obtain ⟨pair, hpair, rfl⟩ := List.mem_map.mp ha
    have hothers : ∀ pair ∈ cut.others, (f pair.1).length ≤ (g pair.1).length :=
      fun pair hpair => h pair.1 (List.mem_map_of_mem hpair)
    exact eq_of_tailText_eq hothers (List.append_cancel_left htext) pair hpair
  · exact text_congr

end Text.Cut

namespace BadgeRenderer

/-- Of an address the slashes at its end are dropped. -/
theorem toList_repository_ofRepository (address : String) :
    (ofRepository address).repository.toList = address.toList.rdropWhile (· = '/') := by
  rw [ofRepository, String.toList_ofList]
  rfl

/-- The address stands in the badge of a released version in one place. -/
theorem exists_badgeText_eq {note : VersionNote} (h : note.version ≠ "next release".toList) :
    ∃ front back, ∀ address, badgeText address note = front ++ (address ++ back) := by
  refine ⟨"<span class=\"badge\">[".toList ++ note.preposition ++ ": ".toList ++ note.version ++
    "](".toList, "/releases/tag/v".toList ++ note.version ++ ")</span>".toList, ?_⟩
  intro address
  rw [badgeText, if_neg h]
  simp only [List.append_assoc]

theorem badgeText_eq_badgeText_iff {first second : List Char} {note : VersionNote} :
    badgeText first note = badgeText second note ↔
      first = second ∨ note.version = "next release".toList := by
  by_cases hnext : note.version = "next release".toList
  · refine iff_of_true ?_ (Or.inr hnext)
    rw [badgeText, badgeText, if_pos hnext, if_pos hnext]
  · obtain ⟨front, back, hbadge⟩ := exists_badgeText_eq hnext
    rw [hbadge, hbadge, List.append_cancel_left_eq, List.append_cancel_right_eq]
    exact (or_iff_left hnext).symm

theorem length_badgeText_le {first second : List Char} (h : first.length ≤ second.length)
    (note : VersionNote) :
    (badgeText first note).length ≤ (badgeText second note).length := by
  by_cases hnext : note.version = "next release".toList
  · rw [badgeText_eq_badgeText_iff.mpr (Or.inr hnext)]
  · obtain ⟨front, back, hbadge⟩ := exists_badgeText_eq hnext
    simp only [hbadge, List.length_append]
    omega

/-- A page with a link tells the address. -/
theorem text_badgeText_eq_iff {first second : List Char} {cut : Cut VersionNote} :
    cut.text (badgeText first) = cut.text (badgeText second) ↔
      first = second ∨ ∀ note ∈ cut.finds, note.version = "next release".toList := by
  have hle : ∀ {shorter longer : List Char}, shorter.length ≤ longer.length →
      (cut.text (badgeText shorter) = cut.text (badgeText longer) ↔
        shorter = longer ∨ ∀ note ∈ cut.finds, note.version = "next release".toList) := by
    intro shorter longer hlength
    rw [Cut.text_eq_text_iff fun note _ => length_badgeText_le hlength note]
    simp only [badgeText_eq_badgeText_iff]
    by_cases hsame : shorter = longer
    · simp only [hsame, true_or, implies_true]
    · simp only [hsame, false_or]
  rcases Nat.le_total first.length second.length with h | h
  · exact hle h
  · rw [eq_comm, hle h, eq_comm]

/-- Two addresses give a note the same badge, or a page with its one cut at version notes the same
rendering, exactly if they are equal without the slashes at their ends, or no badge has a link. -/
theorem render_eq_render_iff (first second : String) :
    (∀ note, (ofRepository first).badgeChars note = (ofRepository second).badgeChars note ↔
      first.toList.rdropWhile (· = '/') = second.toList.rdropWhile (· = '/') ∨
        note.version = "next release".toList) ∧
    ∀ text, (∃! cut, IsCutAtNotes text cut) ∧ ∀ cut, IsCutAtNotes text cut →
      ((ofRepository first).render text = (ofRepository second).render text ↔
        first.toList.rdropWhile (· = '/') = second.toList.rdropWhile (· = '/') ∨
          ∀ note ∈ cut.finds, note.version = "next release".toList) := by
  constructor
  · intro note
    rw [badgeChars_eq_badgeText, badgeChars_eq_badgeText, badgeText_eq_badgeText_iff,
      toList_repository_ofRepository, toList_repository_ofRepository]
  · intro text
    refine ⟨existsUnique_cut text, ?_⟩
    intro cut hcut
    rw [← String.toList_inj, render_eq_badges _ hcut, render_eq_badges _ hcut,
      text_badgeText_eq_iff, toList_repository_ofRepository, toList_repository_ofRepository]

end BadgeRenderer

end BookFilter
