import BookFilter.Proofs.Delimiters
import BookFilter.Proofs.Rendering

/-!
# Badges of closed notes

A closed note is written like a version note, but it may go on after the first closing tag. Where a
badge stands tells which note it stands for: it has the preposition and the version of the note, and
neither a kept text nor a note that goes on after the first closing tag gives the same.
-/

namespace BookFilter

open Text

/-- A text that goes on with nothing or with a mark cannot end inside a text without the mark. -/
theorem prefix_of_append_eq {mark : Char} {plain first tail more : List Char}
    (hplain : mark ∉ plain) (htail : ∀ c ∈ tail.head?, c = mark)
    (happ : first ++ tail = plain ++ more) : plain <+: first := by
  rcases List.append_eq_append_iff.mp happ with ⟨missing, rfl, rfl⟩ | ⟨more', rfl, -⟩
  · cases missing with
    | nil => simp
    | cons c missing =>
        obtain rfl := htail c rfl
        simp at hplain
  · exact List.prefix_append _ _

namespace VersionNote

/-- The note is written like one, though a closing tag may stand in its version. -/
structure IsClosed (note : VersionNote) : Prop where
  opener : IsOpener note.tag note.preposition note.separator
  one_line : '\n' ∉ note.version
  closer_eq : SameFold "</sup>".toList note.closer

theorem IsNoteBefore.isClosed {note : VersionNote} {rest : List Char}
    (h : note.IsNoteBefore rest) : note.IsClosed :=
  ⟨h.1, h.2.one_line, h.2.closer_eq⟩

theorem IsOpener.exists_tag {tag preposition separator : List Char}
    (h : IsOpener tag preposition separator) :
    ∃ inner, tag = '<' :: inner ∧ SameFold "sup>".toList inner :=
  SameFold.exists_cons foldsAlone_angle h.tag_eq

theorem exists_closer {closer : List Char} (h : SameFold "</sup>".toList closer) :
    ∃ inner, closer = '<' :: inner ∧ ',' ∉ inner := by
  obtain ⟨inner, rfl, hinner⟩ := SameFold.exists_cons foldsAlone_angle h
  exact ⟨inner, rfl, hinner.not_mem foldsAlone_comma (by decide)⟩

/-- The characters after the angle bracket of an opener, up to case. -/
def openerLetters : List Char := "sup>UntilSince: ".toList

/-- No opener goes on over the character. -/
def EndsOpener (d : Char) : Prop :=
  FoldsAlone d ∧ d ∉ openerLetters

theorem endsOpener_angle : EndsOpener '<' :=
  ⟨foldsAlone_angle, by decide⟩

theorem endsOpener_comma : EndsOpener ',' :=
  ⟨foldsAlone_comma, by decide⟩

theorem EndsOpener.not_mem {d : Char} (h : EndsOpener d) {literal matched : List Char}
    (hfold : SameFold literal matched) (hletters : literal ⊆ openerLetters) : d ∉ matched :=
  hfold.not_mem h.1 fun hmem => h.2 (hletters hmem)

theorem IsOpener.not_mem_preposition {tag preposition separator : List Char}
    (h : IsOpener tag preposition separator) {d : Char} (hd : EndsOpener d) : d ∉ preposition := by
  rcases h.preposition_eq with hfold | hfold
  · exact hd.not_mem hfold (by decide)
  · exact hd.not_mem hfold (by decide)

theorem IsOpener.exists_cons {tag preposition separator : List Char}
    (h : IsOpener tag preposition separator) :
    ∃ letters, tag ++ preposition ++ separator = '<' :: letters ∧
      ∀ d, EndsOpener d → d ∉ letters := by
  obtain ⟨inner, rfl, hinner⟩ := h.exists_tag
  refine ⟨inner ++ preposition ++ separator, rfl, ?_⟩
  intro d hd
  simp only [List.mem_append, not_or]
  exact ⟨⟨hd.not_mem hinner (by decide), h.not_mem_preposition hd⟩,
    hd.not_mem h.separator_eq (by decide)⟩

/-- A preposition does not begin with the bracket of a link. -/
theorem IsOpener.exists_preposition {tag preposition separator : List Char}
    (h : IsOpener tag preposition separator) :
    ∃ c cs, preposition = c :: cs ∧ c ≠ '[' := by
  have hletters : fold 'U' ≠ fold '[' ∧ fold 'S' ≠ fold '[' := by decide +kernel
  cases preposition with
  | nil => rcases h.preposition_eq with h | h <;> cases h
  | cons c cs =>
      refine ⟨c, cs, rfl, ?_⟩
      rintro rfl
      rcases h.preposition_eq with h | h
      · exact hletters.1 (List.cons.inj h).1
      · exact hletters.2 (List.cons.inj h).1

/-- A note begins with a mark, has no comma up to its version, and goes on with a mark. -/
theorem IsClosed.exists_source {note : VersionNote} (h : note.IsClosed) :
    ∃ opening closing, ',' ∉ opening ∧ ',' ∉ closing ∧ ∀ version,
      source { note with version := version } =
        '<' :: (opening ++ (version ++ '<' :: closing)) := by
  obtain ⟨opening, hopening, hends⟩ := h.opener.exists_cons
  obtain ⟨closing, hcloser, hclosing⟩ := exists_closer h.closer_eq
  refine ⟨opening, closing, hends ',' endsOpener_comma, hclosing, ?_⟩
  intro version
  simp [source, hopening, hcloser]

theorem IsClosed.exists_source_eq {note : VersionNote} (h : note.IsClosed) :
    ∃ more, note.source = '<' :: more := by
  obtain ⟨opening, closing, -, -, hsource⟩ := h.exists_source
  exact ⟨_, hsource note.version⟩

theorem IsClosed.beginsNote {note : VersionNote} (h : note.IsClosed) (rest : List Char) :
    BeginsNote (note.source ++ rest) := by
  refine ⟨note.tag, note.preposition, note.separator, note.version ++ (note.closer ++ rest), ?_,
    h.opener, note.version, note.closer ++ rest, rfl, h.one_line, note.closer, rest, rfl,
    h.closer_eq⟩
  simp [source]

theorem IsOpener.append_inj {tag tag' preposition preposition' separator separator' : List Char}
    {rest rest' : List Char} (h : IsOpener tag preposition separator)
    (h' : IsOpener tag' preposition' separator')
    (happ : tag ++ preposition ++ separator ++ rest = tag' ++ preposition' ++ separator' ++ rest') :
    tag = tag' ∧ preposition = preposition' ∧ separator = separator' ∧ rest = rest' := by
  have hopen := opener?_eq_some_iff.mpr ⟨happ, h⟩
  have hopen' := opener?_eq_some_iff.mpr ⟨Eq.refl (_ ++ rest'), h'⟩
  simpa using hopen.symm.trans hopen'

/-- Of two notes at the start of a text, where one ends at the first closing tag, the other is the
same or its version goes on with that tag. -/
theorem IsClosed.eq_or_version_eq {note found : VersionNote} {rest rest' : List Char}
    (hnote : note.IsClosed) (hfound : found.IsNoteBefore rest')
    (hsource : note.source ++ rest = found.source ++ rest') :
    note.preposition = found.preposition ∧
      (note = found ∧ rest = rest' ∨ ∃ after, note.version = found.version ++ '<' :: after) := by
  obtain ⟨tag, preposition, separator, version, closer⟩ := note
  obtain ⟨tag', preposition', separator', version', closer'⟩ := found
  obtain ⟨hopener, -, hcloser⟩ := hnote
  obtain ⟨hopener', hversion⟩ : IsOpener tag' preposition' separator' ∧
    IsVersion version' closer' rest' := hfound
  have happ : tag ++ preposition ++ separator ++ (version ++ (closer ++ rest)) =
      tag' ++ preposition' ++ separator' ++ (version' ++ (closer' ++ rest')) := by
    simpa [source] using hsource
  obtain ⟨rfl, rfl, rfl, hversions⟩ := hopener.append_inj hopener' happ
  refine ⟨rfl, ?_⟩
  have hlength : version'.length ≤ version.length :=
    hversion.first version (closer ++ rest) hversions ⟨closer, rest, rfl, hcloser⟩
  obtain ⟨after, hafter⟩ : version' <+: version :=
    List.prefix_of_prefix_length_le ⟨_, rfl⟩ ⟨_, hversions⟩ hlength
  subst hafter
  rw [List.append_assoc, List.append_cancel_left_eq] at hversions
  cases after with
  | nil =>
      obtain ⟨rfl, rfl⟩ := hcloser.append_inj hversion.closer_eq rfl hversions
      exact Or.inl ⟨by rw [List.append_nil], rfl⟩
  | cons c after =>
      -- Both go on with the first closing tag.
      obtain ⟨inner, hinner, -⟩ := exists_closer hversion.closer_eq
      rw [hinner] at hversions
      obtain ⟨rfl, -⟩ := List.cons.inj hversions
      exact Or.inr ⟨after, rfl⟩

end VersionNote

namespace BadgeRenderer

/-- What a badge with or without a link begins with. -/
def badgeFront : Bool → List Char
  | false => "<span class=\"badge\">".toList
  | true => "<span class=\"badge\">[".toList

/-- What stands in a badge with or without a link after the version. -/
def badgeBack (address version : List Char) : Bool → List Char
  | false => "</span>".toList
  | true => "](".toList ++ address ++ "/releases/tag/v".toList ++ version ++ ")</span>".toList

/-- The badge of a note, with or without a link. -/
def badgeOf (address : List Char) : Bool × VersionNote → List Char
  | (linked, note) =>
      badgeFront linked ++ (note.preposition ++ ": ".toList) ++
        (note.version ++ badgeBack address note.version linked)

/-- Whether the badge of a note has a link. -/
def isLinked (note : VersionNote) : Bool :=
  note.version ≠ "next release".toList

theorem isLinked_eq_false_iff (note : VersionNote) :
    isLinked note = false ↔ note.version = "next release".toList := by
  rw [isLinked, decide_eq_false_iff_not, Decidable.not_not]

/-- A note with whether its badge has a link. -/
def withLink (note : VersionNote) : Bool × VersionNote :=
  (isLinked note, note)

theorem badgeText_eq_badgeOf (address : List Char) (note : VersionNote) :
    badgeText address note = badgeOf address (withLink note) := by
  have hplain : ∀ front preposition colon version back : List Char,
      front ++ preposition ++ colon ++ version ++ back =
        front ++ (preposition ++ colon) ++ (version ++ back) := by
    simp
  have hlink : ∀ front preposition colon version a b c d e : List Char,
      front ++ preposition ++ colon ++ version ++ a ++ b ++ c ++ d ++ e =
        front ++ (preposition ++ colon) ++ (version ++ (a ++ b ++ c ++ d ++ e)) := by
    simp
  have hlinked := isLinked_eq_false_iff note
  rw [withLink]
  by_cases h : note.version = "next release".toList
  · rw [badgeText, if_pos h, hlinked.mpr h]
    exact hplain ..
  · rw [badgeText, if_neg h, eq_true_of_ne_false (mt hlinked.mp h)]
    exact hlink ..

theorem exists_badgeFront (linked : Bool) :
    ∃ inner, badgeFront linked = '<' :: ("span".toList ++ inner) ∧ ',' ∉ inner := by
  cases linked with
  | false => exact ⟨" class=\"badge\">".toList, rfl, by decide⟩
  | true => exact ⟨" class=\"badge\">[".toList, rfl, by decide⟩

/-- Whether a badge has a link shows in front of what is no bracket. -/
theorem badgeFront_inj {l₁ l₂ : Bool} {c : Char} (hc : c ≠ '[') {more₁ more₂ : List Char}
    (happ : badgeFront l₁ ++ c :: more₁ = badgeFront l₂ ++ c :: more₂) :
    l₁ = l₂ ∧ more₁ = more₂ := by
  have htrue : badgeFront true = badgeFront false ++ ['['] := rfl
  match l₁, l₂ with
  | false, false => exact ⟨rfl, (List.cons.inj (List.append_cancel_left happ)).2⟩
  | true, true => exact ⟨rfl, (List.cons.inj (List.append_cancel_left happ)).2⟩
  | false, true =>
      rw [htrue, List.append_assoc] at happ
      exact absurd (List.cons.inj (List.append_cancel_left happ)).1 hc
  | true, false =>
      rw [htrue, List.append_assoc] at happ
      exact absurd (List.cons.inj (List.append_cancel_left happ)).1.symm hc

/-- Where a badge begins and goes on with a preposition, both are as in the other badge. -/
theorem badgeOf_append_eq {address : List Char} {l₁ l₂ : Bool} {n₁ n₂ : VersionNote}
    {more₁ more₂ : List Char} (hn : n₁.IsClosed) (hpreposition : n₁.preposition = n₂.preposition)
    (happ : badgeOf address (l₁, n₁) ++ more₁ = badgeOf address (l₂, n₂) ++ more₂) :
    l₁ = l₂ ∧ n₁.version ++ (badgeBack address n₁.version l₁ ++ more₁) =
      n₂.version ++ (badgeBack address n₂.version l₂ ++ more₂) := by
  obtain ⟨c, cs, hcs, hc⟩ := hn.opener.exists_preposition
  have hshape : ∀ l (n : VersionNote) more, n.preposition = c :: cs →
      badgeOf address (l, n) ++ more = badgeFront l ++ c :: (cs ++ (": ".toList ++
        (n.version ++ (badgeBack address n.version l ++ more)))) := by
    intro l n more h
    simp only [badgeOf, h, List.append_assoc, List.cons_append]
  rw [hshape _ _ _ hcs, hshape _ _ _ (hpreposition ▸ hcs)] at happ
  obtain ⟨hlinked, happ⟩ := badgeFront_inj hc happ
  exact ⟨hlinked, List.append_cancel_left (List.append_cancel_left happ)⟩

/-- A note that goes on after the first closing tag is told apart by its badge from the note that
ends there. -/
theorem eq_of_badgeOf_append_eq {address : List Char} {linked : Bool} {note found : VersionNote}
    {rest rest' more more' : List Char} (hnote : note.IsClosed)
    (hlinked : linked = false → note.version = "next release".toList)
    (hfound : found.IsNoteBefore rest') (hsource : note.source ++ rest = found.source ++ rest')
    (hbadge : badgeOf address (linked, note) ++ more =
      badgeOf address (withLink found) ++ more') :
    (linked, note) = withLink found ∧ rest = rest' ∧ more = more' := by
  obtain ⟨hpreposition, ⟨rfl, rfl⟩ | ⟨after, hversion⟩⟩ := hnote.eq_or_version_eq hfound hsource
  · obtain ⟨rfl, hback⟩ := badgeOf_append_eq hnote hpreposition hbadge
    exact ⟨rfl, rfl, List.append_cancel_left (List.append_cancel_left hback)⟩
  · obtain ⟨rfl, hback⟩ := badgeOf_append_eq hnote hpreposition hbadge
    rw [hversion, List.append_assoc] at hback
    have hmark := List.append_cancel_left hback
    cases hcase : isLinked found with
    | false =>
        -- The version of a badge without a link has no closing tag in it.
        have hnext := hlinked hcase
        have hmem : '<' ∈ "next release".toList := by
          rw [← hnext, hversion]
          simp
        exact absurd hmem (by decide)
    | true =>
        -- One version is followed by the bracket of its badge, the other by a closing tag.
        rw [hcase] at hmark
        exact absurd (List.cons.inj hmark).1 (by decide)

theorem exists_badgeOf (address : List Char) (pair : Bool × VersionNote) :
    ∃ more, badgeOf address pair = '<' :: ("span".toList ++ more) := by
  obtain ⟨linked, note⟩ := pair
  obtain ⟨inner, hinner, -⟩ := exists_badgeFront linked
  refine ⟨inner ++ (note.preposition ++ ": ".toList) ++
    (note.version ++ badgeBack address note.version linked), ?_⟩
  simp only [badgeOf, hinner, List.append_assoc, List.cons_append]

/-- A kept mark does not begin both a note and its badge. -/
theorem not_kept_of_badge {address : List Char} {found : VersionNote} (hfound : found.IsClosed)
    {c : Char} {kept rest more tail tail' : List Char} (htail : ∀ c ∈ tail.head?, c = '<')
    (htail' : ∀ c ∈ tail'.head?, c = '<')
    (hsource : c :: (kept ++ tail) = found.source ++ rest)
    (hbadge : c :: (kept ++ tail') = badgeText address found ++ more) : False := by
  obtain ⟨inner, htag, hinner⟩ := hfound.opener.exists_tag
  obtain ⟨after, hafter⟩ := exists_badgeOf address (withLink found)
  rw [VersionNote.source, htag] at hsource
  rw [badgeText_eq_badgeOf, hafter] at hbadge
  simp only [List.cons_append, List.append_assoc, List.cons.injEq] at hsource hbadge
  -- What is kept goes on like the tag, `sup>` up to case, and like the badge, `span`.
  have hmark : '<' ∉ inner := hinner.not_mem foldsAlone_angle (by decide)
  have htagged : inner <+: kept := prefix_of_append_eq hmark htail hsource.2
  have hspan : "span".toList <+: kept := prefix_of_append_eq (by decide) htail' hbadge.2
  have hlength : inner.length = "span".toList.length := hinner.length_eq.symm
  obtain rfl : inner = "span".toList :=
    (List.prefix_of_prefix_length_le htagged hspan (Nat.le_of_eq hlength)).eq_of_length hlength
  exact absurd hinner (by decide +kernel)

end BadgeRenderer

end BookFilter
