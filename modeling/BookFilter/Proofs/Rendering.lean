import BookFilter.Badge
import BookFilter.Proofs.Cuts
import BookFilter.Proofs.Folding

/-!
# What a renderer replaces

There is exactly one way to cut a text at version notes so that each note ends at the first closing
tag after its opener, on the same line, and no note begins in what is kept. Rendering puts the badge
of each note in its place. An opener that is not closed on its line is kept like any other text.
-/

namespace BookFilter

open Text

namespace VersionNote

/-- Opening tag, preposition and separator of a version note, each up to case. -/
structure IsOpener (tag preposition separator : List Char) : Prop where
  tag_eq : SameFold "<sup>".toList tag
  preposition_eq : SameFold "Until".toList preposition ∨ SameFold "Since".toList preposition
  separator_eq : SameFold ": ".toList separator

/-- A closing tag stands at the start of the text. -/
def BeginsWithCloser (text : List Char) : Prop :=
  BeginsFolded "</sup>".toList text

/-- There is a closing tag before the end of the line. -/
def ClosesOnLine (text : List Char) : Prop :=
  ∃ line after, line ++ after = text ∧ '\n' ∉ line ∧ BeginsWithCloser after

/-- With `rest` after them, a version and the first closing tag after it, on one line. -/
structure IsVersion (version closer rest : List Char) : Prop where
  one_line : '\n' ∉ version
  closer_eq : SameFold "</sup>".toList closer
  first : ∀ before after, before ++ after = version ++ (closer ++ rest) →
    BeginsWithCloser after → version.length ≤ before.length

/-- With `rest` after it, the note is one that may be found. -/
def IsNoteBefore (note : VersionNote) (rest : List Char) : Prop :=
  IsOpener note.tag note.preposition note.separator ∧ IsVersion note.version note.closer rest

/-- The text begins with an opener that is followed by a closing tag on the same line. -/
def BeginsNote (text : List Char) : Prop :=
  ∃ tag preposition separator rest, tag ++ preposition ++ separator ++ rest = text ∧
    IsOpener tag preposition separator ∧ ClosesOnLine rest

theorem opener?_eq_some_iff {text tag preposition separator rest : List Char} :
    opener? text = some (tag, preposition, separator, rest) ↔
      tag ++ preposition ++ separator ++ rest = text ∧ IsOpener tag preposition separator := by
  simp only [opener?, Option.bind_eq_bind, Option.pure_def, Option.bind_eq_some_iff,
    Option.some.injEq, Prod.exists, Prod.mk.injEq, Option.or_eq_some_iff, splitFolded?_eq_some_iff]
  constructor
  · rintro ⟨t, r₁, ⟨rfl, ht⟩, p, r₂, hp, s, r₃, ⟨hs₁, hs⟩, rfl, rfl, rfl, rfl⟩
    rcases hp with ⟨hr, hp⟩ | ⟨-, hr, hp⟩
    · exact ⟨by rw [← hr, ← hs₁]; simp, ht, Or.inl hp, hs⟩
    · exact ⟨by rw [← hr, ← hs₁]; simp, ht, Or.inr hp, hs⟩
  · rintro ⟨rfl, ht, hp, hs⟩
    refine ⟨tag, preposition ++ separator ++ rest, ⟨by simp, ht⟩, preposition, separator ++ rest,
      ?_, separator, rest, ⟨rfl, hs⟩, rfl, rfl, rfl, rfl⟩
    rcases hp with hp | hp
    · exact Or.inl ⟨by simp, hp⟩
    · -- The two prepositions are of one length and differ up to case as well.
      refine Or.inr ⟨?_, by simp, hp⟩
      rw [splitFolded?_eq_none_iff]
      rintro ⟨other, after, happ, hother⟩
      rw [List.append_assoc] at happ
      have hlength : "Since".toList.length = "Until".toList.length := by simp
      obtain ⟨rfl, -⟩ := hother.append_inj hp hlength happ
      have hsame : SameFold "Until".toList "Since".toList := hother.trans hp.symm
      exact absurd hsame (by decide +kernel)

/-- A closing tag is at least as long as its first character. -/
theorem closer_ne_nil {closer : List Char} (h : SameFold "</sup>".toList closer) : closer ≠ [] := by
  rintro rfl
  cases h

theorem isVersion_nil {closer rest : List Char} :
    IsVersion [] closer rest ↔ SameFold "</sup>".toList closer := by
  constructor
  · intro h
    exact h.closer_eq
  · intro h
    exact ⟨List.not_mem_nil, h, fun _ _ _ _ => Nat.zero_le _⟩

theorem isVersion_cons {c : Char} {version closer rest : List Char} :
    IsVersion (c :: version) closer rest ↔
      ¬ BeginsWithCloser (c :: version ++ (closer ++ rest)) ∧ c ≠ '\n' ∧
        IsVersion version closer rest := by
  constructor
  · intro h
    have hline := h.one_line
    simp only [List.mem_cons, not_or] at hline
    refine ⟨?_, Ne.symm hline.1, hline.2, h.closer_eq, ?_⟩
    · intro hbegins
      exact absurd (h.first [] _ rfl hbegins) (Nat.not_succ_le_zero _)
    · intro before after happ hafter
      have hlen := h.first (c :: before) after (congrArg (List.cons c) happ) hafter
      exact Nat.le_of_succ_le_succ hlen
  · rintro ⟨hbegins, hc, h⟩
    refine ⟨by simp [Ne.symm hc, h.one_line], h.closer_eq, ?_⟩
    intro before after happ hafter
    cases before with
    | nil =>
        rw [show after = c :: version ++ (closer ++ rest) from happ] at hafter
        exact absurd hafter hbegins
    | cons d before =>
        have hlen := h.first before after (List.cons.inj happ).2 hafter
        exact Nat.succ_le_succ hlen

theorem version?_eq_some_iff {text version closer rest : List Char} :
    version? text = some (version, closer, rest) ↔
      version ++ (closer ++ rest) = text ∧ IsVersion version closer rest := by
  induction text generalizing version with
  | nil =>
      simp only [version?, List.append_eq_nil_iff]
      constructor
      · intro h
        cases h
      · rintro ⟨⟨-, hnil, -⟩, h⟩
        exact absurd hnil (closer_ne_nil h.closer_eq)
  | cons c cs ih =>
      rw [version?]
      split
      · next found after hfound =>
          -- A closing tag stands here, so the version is empty.
          obtain ⟨happ, hfold⟩ := splitFolded?_eq_some_iff.mp hfound
          constructor
          · intro h
            simp only [Option.some.injEq, Prod.mk.injEq] at h
            obtain ⟨rfl, rfl, rfl⟩ := h
            exact ⟨happ, isVersion_nil.mpr hfold⟩
          · rintro ⟨htext, h⟩
            cases version with
            | nil =>
                obtain ⟨rfl, rfl⟩ := hfold.append_inj h.closer_eq rfl (happ.trans htext.symm)
                rfl
            | cons d version =>
                have hbegins := (isVersion_cons.mp h).1
                rw [htext] at hbegins
                exact absurd ⟨found, after, happ, hfold⟩ hbegins
      · next hnone =>
          -- No closing tag stands here, so the version begins with this character.
          rw [splitFolded?_eq_none_iff] at hnone
          cases version with
          | nil =>
              constructor
              · intro h
                split at h <;> simp at h
              · rintro ⟨htext, h⟩
                exact absurd ⟨closer, rest, htext, h.closer_eq⟩ hnone
          | cons d version =>
              rw [isVersion_cons]
              split
              · next hc =>
                  constructor
                  · intro h
                    cases h
                  · rintro ⟨htext, -, hd, -⟩
                    exact absurd ((List.cons.inj htext).1.trans hc) hd
              · next hc =>
                  constructor
                  · intro h
                    obtain ⟨pieces, hpieces, heq⟩ := Option.map_eq_some_iff.mp h
                    cases heq
                    obtain ⟨rfl, hversion⟩ := ih.mp hpieces
                    exact ⟨rfl, hnone, hc, hversion⟩
                  · rintro ⟨htext, -, -, hversion⟩
                    obtain ⟨rfl, hcs⟩ := List.cons.inj htext
                    rw [ih.mpr ⟨hcs, hversion⟩]
                    rfl

theorem not_closesOnLine_nil : ¬ ClosesOnLine [] := by
  rintro ⟨line, after, happ, -, closer, rest, rfl, hcloser⟩
  simp only [List.append_eq_nil_iff] at happ
  exact closer_ne_nil hcloser happ.2.1

theorem closesOnLine_cons {c : Char} {cs : List Char} :
    ClosesOnLine (c :: cs) ↔ BeginsWithCloser (c :: cs) ∨ c ≠ '\n' ∧ ClosesOnLine cs := by
  constructor
  · rintro ⟨line, after, happ, hline, hafter⟩
    cases line with
    | nil =>
        rw [← show after = c :: cs from happ]
        exact Or.inl hafter
    | cons d line =>
        obtain ⟨rfl, hcs⟩ := List.cons.inj happ
        simp only [List.mem_cons, not_or] at hline
        exact Or.inr ⟨Ne.symm hline.1, line, after, hcs, hline.2, hafter⟩
  · rintro (hbegins | ⟨hc, line, after, rfl, hline, hafter⟩)
    · exact ⟨[], c :: cs, rfl, List.not_mem_nil, hbegins⟩
    · exact ⟨c :: line, after, rfl, by simp [hline, Ne.symm hc], hafter⟩

theorem version?_eq_none_iff {text : List Char} :
    version? text = none ↔ ¬ ClosesOnLine text := by
  induction text with
  | nil => exact iff_of_true rfl not_closesOnLine_nil
  | cons c cs ih =>
      rw [version?, closesOnLine_cons]
      split
      · next found after hfound =>
          have hbegins : BeginsWithCloser (c :: cs) := beginsFolded_iff.mpr ⟨found, after, hfound⟩
          simp [hbegins]
      · next hnone =>
          have hbegins : ¬ BeginsWithCloser (c :: cs) := splitFolded?_eq_none_iff.mp hnone
          by_cases hc : c = '\n'
          · simp [hc, hc ▸ hbegins]
          · simp [hc, hbegins, ih]

theorem at?_eq_some_iff {text : List Char} {note : VersionNote} {rest : List Char} :
    at? text = some (note, rest) ↔ note.source ++ rest = text ∧ note.IsNoteBefore rest := by
  simp only [at?, Option.bind_eq_bind, Option.pure_def, Option.bind_eq_some_iff,
    Option.some.injEq, Prod.exists, Prod.mk.injEq, opener?_eq_some_iff, version?_eq_some_iff]
  constructor
  · rintro ⟨tag, preposition, separator, r, ⟨rfl, hopener⟩, version, closer, after, ⟨rfl, hversion⟩,
      rfl, rfl⟩
    exact ⟨by simp [source], hopener, hversion⟩
  · rintro ⟨rfl, hopener, hversion⟩
    exact ⟨note.tag, note.preposition, note.separator, note.version ++ (note.closer ++ rest),
      ⟨by simp [source], hopener⟩, note.version, note.closer, rest, ⟨rfl, hversion⟩, rfl, rfl⟩

theorem at?_eq_none_iff {text : List Char} : at? text = none ↔ ¬ BeginsNote text := by
  constructor
  · rintro hnone ⟨tag, preposition, separator, rest, htext, hopener, hcloses⟩
    have hopen := opener?_eq_some_iff.mpr ⟨htext, hopener⟩
    cases hversion : version? rest with
    | none => exact version?_eq_none_iff.mp hversion hcloses
    | some found => simp [at?, hopen, hversion] at hnone
  · intro hbegins
    cases hat : at? text with
    | none => rfl
    | some pair =>
        obtain ⟨note, rest⟩ := pair
        obtain ⟨rfl, hopener, hversion⟩ := at?_eq_some_iff.mp hat
        refine absurd ⟨note.tag, note.preposition, note.separator, _, ?_, hopener, note.version,
          note.closer ++ rest, rfl, hversion.one_line, note.closer, rest, rfl,
          hversion.closer_eq⟩ hbegins
        simp [source]

end VersionNote

theorem versionNotes_recognises :
    versionNotes.Recognises VersionNote.IsNoteBefore VersionNote.BeginsNote where
  at?_iff := VersionNote.at?_eq_some_iff
  at?_eq_none_iff := VersionNote.at?_eq_none_iff

namespace BadgeRenderer

/-- An address is what is left of it without slashes, and then slashes only. -/
theorem withoutSlashes_append (address : List Char) :
    (∃ count, withoutSlashes address ++ List.replicate count '/' = address) ∧
      (withoutSlashes address).getLast? ≠ some '/' := by
  have hreverse : ∀ text : List Char,
      (∃ count, List.replicate count '/' ++ text.dropWhile (· = '/') = text) ∧
        (text.dropWhile (· = '/')).head? ≠ some '/' := by
    intro text
    induction text with
    | nil => exact ⟨⟨0, rfl⟩, by simp⟩
    | cons c cs ih =>
        obtain ⟨⟨count, happ⟩, hhead⟩ := ih
        by_cases hc : c = '/'
        · subst hc
          rw [List.dropWhile_cons_of_pos (by simp)]
          exact ⟨⟨count + 1, congrArg (List.cons '/') happ⟩, hhead⟩
        · rw [List.dropWhile_cons_of_neg (by simpa using hc)]
          exact ⟨⟨0, rfl⟩, by simpa using hc⟩
  obtain ⟨⟨count, happ⟩, hhead⟩ := hreverse address.reverse
  refine ⟨⟨count, ?_⟩, by simpa [withoutSlashes] using hhead⟩
  have hsame := congrArg List.reverse happ
  simpa [withoutSlashes] using hsame

/-- What stands in the place of a note: a badge that links to the release at the address, or one
without a link for the version that is not released yet. Nothing is escaped. -/
def badgeText (address : List Char) (note : VersionNote) : List Char :=
  if note.version = "next release".toList then
    "<span class=\"badge\">".toList ++ note.preposition ++ ": ".toList ++ note.version ++
      "</span>".toList
  else
    "<span class=\"badge\">[".toList ++ note.preposition ++ ": ".toList ++ note.version ++
      "](".toList ++ address ++ "/releases/tag/v".toList ++ note.version ++ ")</span>".toList

theorem badgeChars_eq_badgeText (renderer : BadgeRenderer) (note : VersionNote) :
    renderer.badgeChars note = badgeText renderer.repository.toList note := by
  have hversion : String.ofList note.version = nextRelease ↔
      note.version = "next release".toList := by
    rw [← String.toList_inj, String.toList_ofList, nextRelease]
  by_cases h : note.version = "next release".toList
  · rw [badgeChars, badge, if_pos (hversion.mpr h), badgeText, if_pos h]
    simp only [toString, String.toList_append, String.toList_ofList]
  · rw [badgeChars, badge, if_neg (mt hversion.mp h), badgeText, if_neg h]
    simp only [toString, String.toList_append, String.toList_ofList, List.append_assoc]

/-- The cuts of a text at version notes. -/
def IsCutAtNotes (text : String) (cut : Cut VersionNote) : Prop :=
  cut.IsScanOf VersionNote.source VersionNote.IsNoteBefore VersionNote.BeginsNote text.toList

theorem existsUnique_cut (text : String) : ∃! cut, IsCutAtNotes text cut :=
  versionNotes_recognises.existsUnique_scan text.toList

theorem render_eq_badges (renderer : BadgeRenderer) {text : String} {cut : Cut VersionNote}
    (h : IsCutAtNotes text cut) :
    (renderer.render text).toList = cut.text (badgeText renderer.repository.toList) := by
  rw [render, String.toList_ofList, renderChars, versionNotes_recognises.replace_eq _ h]
  exact congrArg (Cut.text · cut) (funext (badgeChars_eq_badgeText renderer))

/-- There is exactly one cut of a text at version notes, and rendering puts badges that link to the
address without its slashes in the place of the notes. -/
theorem render_eq_unique_cut (repository : String) :
    ∃ address, (∃ count, address ++ List.replicate count '/' = repository.toList) ∧
      address.getLast? ≠ some '/' ∧ ∀ text : String,
        (∃! cut, IsCutAtNotes text cut) ∧
        ∀ cut, IsCutAtNotes text cut →
          ((ofRepository repository).render text).toList = cut.text (badgeText address) := by
  obtain ⟨hslashes, hlast⟩ := withoutSlashes_append repository.toList
  refine ⟨withoutSlashes repository.toList, hslashes, hlast, ?_⟩
  intro text
  refine ⟨existsUnique_cut text, ?_⟩
  intro cut hcut
  rw [render_eq_badges _ hcut, ofRepository, String.toList_ofList]

end BadgeRenderer

end BookFilter
