import BookFilter.Proofs.Addresses
import BookFilter.Proofs.HookOrder
import BookFilter.Proofs.Lines
import BookFilter.Proofs.Occurrences

/-!
# What rendering leaves

Where neither the address of the repository nor a version has an opener in it, there is no note in a
rendered page. A badge begins no note, and neither do its ends with what stands around them, for an
opener has one angle bracket, at its beginning, and no other mark of a badge. An opener that is kept
was not closed on its line, and the next badge stands on a later one.
-/

namespace BookFilter

open Text

namespace Text.Cut

variable {α : Type} {begins : List Char → Prop}

theorem Quiet.imp {begins' : List Char → Prop} {kept rest : List Char}
    (h : Quiet begins kept rest) (himp : ∀ text, begins' text → begins text) :
    Quiet begins' kept rest :=
  fun before after happ hne hbegins => h before after happ hne (himp _ hbegins)

theorem quiet_append {first second rest : List Char} :
    Quiet begins (first ++ second) rest ↔
      Quiet begins first (second ++ rest) ∧ Quiet begins second rest := by
  induction first with
  | nil => simp
  | cons c first ih =>
      rw [List.cons_append, quiet_cons, quiet_cons, ih, ← and_assoc, List.cons_append,
        List.cons_append, List.append_assoc]

/-- If nothing begins in a kept stretch or in a text put in the place of a find, nothing begins in
the text that they make up. -/
theorem IsScan.quiet_text {f : α → List Char} {cut : Cut α}
    (h : cut.IsScan f (fun a rest => Quiet begins (f a) rest) begins) :
    Quiet begins (cut.text f) [] := by
  obtain ⟨first, others⟩ := cut
  induction others generalizing first with
  | nil =>
      rw [text, tailText_nil, List.append_nil]
      exact h.first_quiet
  | cons pair others ih =>
      obtain ⟨a, kept⟩ := pair
      obtain ⟨hbadge, hothers⟩ := isScan_found.mp ⟨quiet_nil begins _, h.found⟩
      have htext : text f ⟨first, (a, kept) :: others⟩ =
          first ++ (f a ++ text f ⟨kept, others⟩) := by
        rw [text, tailText_cons, text]
      rw [htext, quiet_append, quiet_append, List.append_nil, List.append_nil]
      refine ⟨?_, hbadge, ih kept hothers⟩
      rw [text, ← tailText_cons]
      exact h.first_quiet

end Text.Cut

namespace VersionNote

/-- The text begins with an opener, whether a closing tag follows or not. -/
def BeginsOpener (text : List Char) : Prop :=
  ∃ tag preposition separator rest, tag ++ preposition ++ separator ++ rest = text ∧
    IsOpener tag preposition separator

theorem beginsOpener_iff {text : List Char} :
    BeginsOpener text ↔ (opener? text).isSome = true := by
  simp only [BeginsOpener, Option.isSome_iff_exists, Prod.exists, opener?_eq_some_iff]

instance : DecidablePred BeginsOpener :=
  fun _ => decidable_of_iff _ beginsOpener_iff.symm

theorem BeginsNote.beginsOpener {text : List Char} (h : BeginsNote text) : BeginsOpener text := by
  obtain ⟨tag, preposition, separator, rest, happ, hopener, -⟩ := h
  exact ⟨tag, preposition, separator, rest, happ, hopener⟩

/-- An opener that begins in a text ends in it, if no opener goes on over what follows. -/
theorem IsOpener.exists_rest {tag preposition separator rest text tail : List Char}
    (h : IsOpener tag preposition separator) (htail : ∀ d ∈ tail.head?, EndsOpener d)
    (hne : text ≠ []) (happ : tag ++ preposition ++ separator ++ rest = text ++ tail) :
    ∃ after, tag ++ preposition ++ separator ++ after = text ∧ rest = after ++ tail := by
  obtain ⟨letters, hletters, hends⟩ := h.exists_cons
  rw [hletters] at happ ⊢
  cases text with
  | nil => exact absurd rfl hne
  | cons c text =>
      rw [List.cons_append, List.cons_append, List.cons.injEq] at happ
      obtain ⟨rfl, happ⟩ := happ
      obtain ⟨after, rfl⟩ : letters <+: text := by
        cases tail with
        | nil => exact ⟨rest, by rw [happ, List.append_nil]⟩
        | cons d tail =>
            have hhead : ∀ c ∈ (d :: tail).head?, c = d := by simp
            exact prefix_of_append_eq (hends d (htail d rfl)) hhead happ.symm
      rw [List.append_assoc] at happ
      exact ⟨after, rfl, List.append_cancel_left happ⟩

section Quiet

open Cut

/-- No opener begins in a text without angle brackets. -/
theorem quiet_of_angle_not_mem {plain : List Char} (h : '<' ∉ plain) (rest : List Char) :
    Quiet BeginsOpener plain rest := by
  rintro before after rfl hne ⟨tag, preposition, separator, more, happ, hopener⟩
  obtain ⟨letters, hletters, -⟩ := hopener.exists_cons
  rw [hletters] at happ
  cases after with
  | nil => exact hne rfl
  | cons c after =>
      obtain ⟨rfl, -⟩ := List.cons.inj happ
      simp at h

theorem quiet_of_not_occurs {text rest : List Char} (h : ¬ Occurs BeginsOpener text) {d : Char}
    (hd : EndsOpener d) : Quiet BeginsOpener text (d :: rest) := by
  rintro before after rfl hne ⟨tag, preposition, separator, more, happ, hopener⟩
  obtain ⟨inside, hinside, -⟩ := hopener.exists_rest (by simpa using hd) hne happ
  exact h ⟨before, after, rfl, tag, preposition, separator, inside, hinside, hopener⟩

/-- An angle bracket with other letters after it than those of a tag begins no opener. -/
theorem quiet_angle_cons {letters plain : List Char} (hlength : letters.length = 4)
    (hfold : ¬ SameFold "sup>".toList letters) (hplain : '<' ∉ letters ++ plain)
    (rest : List Char) : Quiet BeginsOpener ('<' :: (letters ++ plain)) rest := by
  refine quiet_cons.mpr ⟨?_, quiet_of_angle_not_mem hplain rest⟩
  rintro ⟨tag, preposition, separator, more, happ, hopener⟩
  obtain ⟨inner, rfl, hinner⟩ := hopener.exists_tag
  simp only [List.cons_append, List.append_assoc, List.cons.injEq, true_and] at happ
  obtain ⟨rfl, -⟩ := List.append_inj happ (hinner.length_eq.symm.trans hlength.symm)
  exact hfold hinner

end Quiet

/-- Whether a tag closes on a line does not depend on the lines after it. -/
theorem closesOnLine_append_line (line rest : List Char) :
    ClosesOnLine (line ++ '\n' :: rest) ↔ ClosesOnLine line := by
  rw [← not_iff_not, ← version?_eq_none_iff, ← version?_eq_none_iff, version?_append_line,
    Option.map_eq_none_iff]

/-- A note closes whatever stands on its line before it. -/
theorem IsClosed.closesOnLine {note : VersionNote} (h : note.IsClosed) {plain : List Char}
    (hplain : '\n' ∉ plain) (rest : List Char) : ClosesOnLine (plain ++ (note.source ++ rest)) := by
  obtain ⟨letters, hletters, hends⟩ := h.opener.exists_cons
  have hline : EndsOpener '\n' := ⟨foldsAlone_lineFeed, by decide⟩
  refine ⟨plain ++ ('<' :: letters ++ note.version), note.closer ++ rest, ?_, ?_,
    note.closer, rest, rfl, h.closer_eq⟩
  · rw [source, hletters]
    simp only [List.append_assoc]
  · simp [hplain, hends _ hline, h.one_line]

/-- What is kept begins no note in front of badges if it begins none in front of the notes. -/
theorem quiet_tailText {f : VersionNote → List Char} {kept : List Char}
    {others : List (VersionNote × List Char)} (hclosed : ∀ pair ∈ others, pair.1.IsClosed)
    (hf : ∀ note, ∃ more, f note = '<' :: more)
    (h : Cut.Quiet BeginsNote kept (Cut.tailText source others)) :
    Cut.Quiet BeginsNote kept (Cut.tailText f others) := by
  rintro before after happ hne ⟨tag, preposition, separator, rest, htext, hopener, hcloses⟩
  have hends : ∀ d ∈ (Cut.tailText f others).head?, EndsOpener d := by
    intro d hd
    rw [Cut.head?_tailText (fun pair _ => hf pair.1) d hd]
    exact endsOpener_angle
  obtain ⟨inside, rfl, rfl⟩ := hopener.exists_rest hends hne htext
  apply h before _ happ hne
  refine ⟨tag, preposition, separator, inside ++ Cut.tailText source others,
    (List.append_assoc ..).symm, hopener, ?_⟩
  by_cases hline : '\n' ∈ inside
  · -- The line ends in front of the badges.
    obtain ⟨line, later, rfl⟩ := List.append_of_mem hline
    rw [List.append_assoc, List.cons_append, closesOnLine_append_line] at hcloses ⊢
    exact hcloses
  · -- The next note would stand on the line and close it.
    cases others with
    | nil => exact hcloses
    | cons pair others =>
        rw [Cut.tailText_cons]
        exact (hclosed pair (List.mem_cons_self ..)).closesOnLine hline _

end VersionNote

namespace BadgeRenderer

open VersionNote Cut

theorem quiet_closingTag (rest : List Char) : Quiet BeginsOpener "</span>".toList rest := by
  have hfold : ¬ SameFold "sup>".toList "/spa".toList := by decide +kernel
  have hplain : '<' ∉ "/spa".toList ++ "n>".toList := by decide
  exact quiet_angle_cons rfl hfold hplain rest

theorem quiet_badgeFront (linked : Bool) (rest : List Char) :
    Quiet BeginsOpener (badgeFront linked) rest := by
  have hfold : ¬ SameFold "sup>".toList "span".toList := by decide +kernel
  have hplain : '<' ∉ "span".toList ++ " class=\"badge\">".toList := by decide
  have hspan : ∀ rest, Quiet BeginsOpener (badgeFront false) rest :=
    fun rest => quiet_angle_cons rfl hfold hplain rest
  cases linked with
  | false => exact hspan rest
  | true => exact quiet_append.mpr ⟨hspan _, quiet_of_angle_not_mem (by decide) rest⟩

theorem quiet_badgeBack {address version : List Char} (haddress : ¬ Occurs BeginsOpener address)
    (hversion : ¬ Occurs BeginsOpener version) (linked : Bool) (rest : List Char) :
    Quiet BeginsOpener (badgeBack address version linked) rest := by
  have hslash : EndsOpener '/' := ⟨foldsAlone_of_lt (by decide), by decide⟩
  have hparenthesis : EndsOpener ')' := ⟨foldsAlone_of_lt (by decide), by decide⟩
  cases linked with
  | false => exact quiet_closingTag rest
  | true =>
      have hclosing : Quiet BeginsOpener ([')'] ++ "</span>".toList) rest :=
        quiet_append.mpr ⟨quiet_of_angle_not_mem (by decide) _, quiet_closingTag rest⟩
      change Quiet BeginsOpener ("](".toList ++ address ++ "/releases/tag/v".toList ++ version ++
        ([')'] ++ "</span>".toList)) rest
      rw [quiet_append, quiet_append, quiet_append, quiet_append]
      exact ⟨⟨⟨⟨quiet_of_angle_not_mem (by decide) _, quiet_of_not_occurs haddress hslash⟩,
        quiet_of_angle_not_mem (by decide) _⟩, quiet_of_not_occurs hversion hparenthesis⟩, hclosing⟩

/-- No opener begins in a badge, wherever it stands, if there is none in its address and its
version. -/
theorem quiet_badgeText {address : List Char} {note : VersionNote} (hnote : note.IsClosed)
    (haddress : ¬ Occurs BeginsOpener address) (hversion : ¬ Occurs BeginsOpener note.version)
    (rest : List Char) : Quiet BeginsOpener (badgeText address note) rest := by
  have hpreposition : '<' ∉ note.preposition := hnote.opener.not_mem_preposition endsOpener_angle
  rw [badgeText_eq_badgeOf, withLink, badgeOf, quiet_append, quiet_append, quiet_append,
    quiet_append]
  refine ⟨⟨quiet_badgeFront _ _, quiet_of_angle_not_mem hpreposition _,
    quiet_of_angle_not_mem (by decide) _⟩, ?_, quiet_badgeBack haddress hversion _ _⟩
  -- After the version a link goes on with a bracket, another badge with a closing tag.
  cases isLinked note with
  | false => exact quiet_of_not_occurs hversion endsOpener_angle
  | true => exact quiet_of_not_occurs hversion ⟨foldsAlone_bracket, by decide⟩

/-- Nothing begins a note in a page with badges if nothing did in what was kept of it. -/
theorem quiet_text_badgeText {address : List Char} {cut : Cut VersionNote}
    (hscan : cut.IsScan VersionNote.source VersionNote.IsNoteBefore BeginsNote)
    (haddress : ¬ Occurs BeginsOpener address)
    (hversions : ∀ note ∈ cut.finds, ¬ Occurs BeginsOpener note.version) :
    Quiet BeginsNote (cut.text (badgeText address)) [] := by
  have hclosed : ∀ pair ∈ cut.others, pair.1.IsClosed :=
    fun pair hpair => isClosed_of_isScan hscan pair.1 (List.mem_map_of_mem hpair)
  have hbadge : ∀ note, ∃ more, badgeText address note = '<' :: more := by
    intro note
    obtain ⟨more, hmore⟩ := exists_badgeOf address (withLink note)
    exact ⟨_, (badgeText_eq_badgeOf address note).trans hmore⟩
  apply IsScan.quiet_text
  constructor
  · exact quiet_tailText hclosed hbadge hscan.first_quiet
  · intro before note kept after happ
    have hnote : (note, kept) ∈ cut.others := by simp [← happ]
    have hafter : ∀ pair ∈ after, pair.1.IsClosed := by
      intro pair hpair
      exact hclosed pair (by simp [← happ, hpair])
    have hquiet := quiet_badgeText (hclosed _ hnote) haddress
      (hversions note (List.mem_map_of_mem hnote))
    exact ⟨(hquiet _).imp fun _ => BeginsNote.beginsOpener,
      quiet_tailText hafter hbadge (hscan.found before note kept after happ).2⟩

/-- Where neither the address of the repository, without the slashes at its end, nor the version of
a note has an opener in it, there is no note in the rendered page, and rendering it again leaves it
as it is. -/
theorem not_hasNote_render (repository text : String)
    (hrepository : ¬ Occurs BeginsOpener (repository.toList.rdropWhile (· = '/')))
    (hversions : ∀ cut, IsCutAtNotes text cut →
      ∀ note ∈ cut.finds, ¬ Occurs BeginsOpener note.version) :
    ¬ HasNote ((ofRepository repository).render text) ∧
      (ofRepository repository).render ((ofRepository repository).render text) =
        (ofRepository repository).render text := by
  have hnote : ¬ HasNote ((ofRepository repository).render text) := by
    obtain ⟨cut, hcut, -⟩ := existsUnique_cut text
    have hnil := versionNotes_recognises.not_begins_nil
    rw [HasNote, render_eq_badges _ hcut, toList_repository_ofRepository]
    exact (quiet_iff_not_occurs hnil).mp
      (quiet_text_badgeText hcut.2 hrepository (hversions cut hcut))
  exact ⟨hnote, (render_eq_self_iff _ _).mpr hnote⟩

/-- An opener that is not closed, a stray closing tag, and an opener with a note inside it, whose
version is all of an opener but the blank. -/
def scatteredPage : String :=
  "<sup>Since: open\n</sup> <su<SUP>until: <sup>Since:</sup>p>Since: 2</sup>"

/-- The address may have a closing tag and a line feed in it. -/
theorem not_hasNote_render_scattered :
    ¬ Occurs BeginsOpener ("a</sup>\nb//".toList.rdropWhile (· = '/')) ∧
      (∀ cut, IsCutAtNotes scatteredPage cut →
        ∀ note ∈ cut.finds, ¬ Occurs BeginsOpener note.version) ∧
      ¬ HasNote ((ofRepository "a</sup>\nb//").render scatteredPage) ∧
      (ofRepository "a</sup>\nb//").render scatteredPage =
        "<sup>Since: open\n</sup> <su<span class=\"badge\">[until: <sup>Since:]" ++
          "(a</sup>\nb/releases/tag/v<sup>Since:)</span>p>Since: 2</sup>" := by
  have hrepository : ¬ Occurs BeginsOpener ("a</sup>\nb//".toList.rdropWhile (· = '/')) := by
    decide +kernel
  have hversions : ∀ cut, IsCutAtNotes scatteredPage cut →
      ∀ note ∈ cut.finds, ¬ Occurs BeginsOpener note.version := by
    intro cut hcut
    rw [isCutAtNotes_iff.mp hcut]
    decide +kernel
  exact ⟨hrepository, hversions, (not_hasNote_render _ _ hrepository hversions).1,
    by decide +kernel⟩

end BadgeRenderer

end BookFilter
