import BookFilter.Proofs.Badges

/-!
# The order of the hooks

Stripping before rendering and rendering before stripping give the same page exactly if the notes of
the stripped page are those of the page, each with its version stripped, and no version becomes the
next release by it. A deletion in the middle of a tag makes up a note that is not on the page, and
then the order matters.
-/

namespace BookFilter

open Text

namespace MarkerStripper

variable {stripper : MarkerStripper}

/-- The marks at which notes and badges are cut. -/
def marks : List Char := ['<', ']', ')']

/-- No name has a mark in it, so that no marker reaches over one. -/
def SparesMarks (stripper : MarkerStripper) : Prop :=
  ∀ name ∈ stripper.names, ∀ mark ∈ marks, mark ∉ name.toList

theorem SparesMarks.isLocalAt (h : stripper.SparesMarks) {mark : Char} (hmark : mark ∈ marks) :
    (markers (stripper.names.map String.toList)).IsLocalAt mark := by
  have hfold : FoldsAlone mark ∧ mark ≠ ',' := by
    simp only [marks, List.mem_cons, List.not_mem_nil, or_false] at hmark
    rcases hmark with rfl | rfl | rfl
    · exact ⟨foldsAlone_angle, by decide⟩
    · exact ⟨foldsAlone_bracket, by decide⟩
    · exact ⟨foldsAlone_of_lt (by decide), by decide⟩
  have hnames : ∀ name ∈ stripper.names.map String.toList, mark ∉ name := by
    simp only [List.mem_map]
    rintro - ⟨name, hname, rfl⟩
    exact h name hname mark hmark
  exact markers_isLocalAt hfold.1 hfold.2 hnames

theorem stripChars_append_mark (h : stripper.SparesMarks) {mark : Char} (hmark : mark ∈ marks)
    (text rest : List Char) :
    stripper.stripChars (text ++ mark :: rest) =
      stripper.stripChars text ++ mark :: stripper.stripChars rest := by
  simp only [stripChars_eq]
  exact (h.isLocalAt hmark).replace_append _ text rest

theorem stripChars_append_plain (stripper : MarkerStripper) {plain : List Char} (h : ',' ∉ plain)
    (rest : List Char) :
    stripper.stripChars (plain ++ rest) = plain ++ stripper.stripChars rest := by
  rw [stripChars_eq, stripChars_eq]
  exact markers_replace_append _ h rest

theorem stripChars_plain {plain : List Char} (h : ',' ∉ plain) :
    stripper.stripChars plain = plain := by
  have hnil : stripper.stripChars [] = [] := by
    rw [stripChars, Matcher.replace, Matcher.pieces_nil, List.flatMap_nil]
  simpa only [List.append_nil, hnil] using stripper.stripChars_append_plain h []

theorem stripChars_sublist (stripper : MarkerStripper) (text : List Char) :
    (stripper.stripChars text).Sublist text :=
  Matcher.erase_sublist _ text

/-- The note with its version stripped. -/
def stripNote (stripper : MarkerStripper) (note : VersionNote) : VersionNote :=
  { note with version := stripper.stripChars note.version }

/-- Stripping passes over a note but for its version. -/
theorem stripChars_source (h : stripper.SparesMarks) {note : VersionNote} (hnote : note.IsClosed)
    (kept rest : List Char) :
    stripper.stripChars (kept ++ (note.source ++ rest)) =
      stripper.stripChars kept ++
        ((stripper.stripNote note).source ++ stripper.stripChars rest) := by
  obtain ⟨opening, closing, hopening, hclosing, hsource⟩ := hnote.exists_source
  have hmark : '<' ∈ marks := by decide
  rw [stripNote, hsource, hsource]
  simp only [List.cons_append, List.append_assoc, stripChars_append_mark h hmark,
    stripper.stripChars_append_plain hopening,
    stripper.stripChars_append_plain hclosing]

theorem stripNote_isClosed {note : VersionNote} (h : note.IsClosed) :
    (stripper.stripNote note).IsClosed where
  opener := h.opener
  one_line hmem := h.one_line ((stripper.stripChars_sublist note.version).subset hmem)
  closer_eq := h.closer_eq

end MarkerStripper

namespace BadgeRenderer

section Strip

variable {stripper : MarkerStripper} {address : List Char}

theorem stripChars_badgeBack (h : stripper.SparesMarks) (haddress : ',' ∉ address) (linked : Bool)
    (version rest : List Char) :
    stripper.stripChars (version ++ (badgeBack address version linked ++ rest)) =
      stripper.stripChars version ++
        (badgeBack address (stripper.stripChars version) linked ++ stripper.stripChars rest) := by
  cases linked with
  | false =>
      have hclosing : ',' ∉ "/span>".toList := by decide
      have hback : ∀ text, badgeBack address text false = '<' :: "/span>".toList := fun _ => rfl
      rw [hback, hback, List.cons_append, stripper.stripChars_append_mark h (by decide),
        stripper.stripChars_append_plain hclosing]
      rfl
  | true =>
      have hlink : ',' ∉ '(' :: (address ++ "/releases/tag/v".toList) := by
        simp [haddress]
      have hclosing : ',' ∉ "</span>".toList := by decide
      have hback : ∀ text after, badgeBack address text true ++ after =
          ']' :: ('(' :: (address ++ "/releases/tag/v".toList) ++
            (text ++ ')' :: ("</span>".toList ++ after))) := by
        intro text after
        change "](".toList ++ address ++ "/releases/tag/v".toList ++ text ++ ")</span>".toList
          ++ after = _
        simp
      rw [hback, hback, stripper.stripChars_append_mark h (by decide),
        stripper.stripChars_append_plain hlink, stripper.stripChars_append_mark h (by decide),
        stripper.stripChars_append_plain hclosing]

/-- Stripping passes over a badge but for its version. -/
theorem stripChars_badgeOf (h : stripper.SparesMarks) (haddress : ',' ∉ address) (linked : Bool)
    {note : VersionNote} (hnote : note.IsClosed) (kept rest : List Char) :
    stripper.stripChars (kept ++ (badgeOf address (linked, note) ++ rest)) =
      stripper.stripChars kept ++
        (badgeOf address (linked, stripper.stripNote note) ++ stripper.stripChars rest) := by
  obtain ⟨inner, hfront, hinner⟩ := exists_badgeFront linked
  have hplain : ',' ∉ "span".toList ++ inner ++ (note.preposition ++ ": ".toList) := by
    simp [hinner, hnote.opener.not_mem_preposition VersionNote.endsOpener_comma]
  have hshape : ∀ version after,
      badgeOf address (linked, { note with version := version }) ++ after =
        '<' :: (("span".toList ++ inner ++ (note.preposition ++ ": ".toList)) ++
          (version ++ (badgeBack address version linked ++ after))) := by
    intro version after
    simp only [badgeOf, hfront, List.append_assoc, List.cons_append]
  rw [MarkerStripper.stripNote, hshape, hshape, stripper.stripChars_append_mark h (by decide),
    stripper.stripChars_append_plain hplain, stripChars_badgeBack h haddress]

end Strip

/-- The notes of a scan are closed. -/
theorem isClosed_of_isScan {cut : Cut VersionNote}
    (h : cut.IsScan VersionNote.source VersionNote.IsNoteBefore VersionNote.BeginsNote) :
    ∀ note ∈ cut.finds, note.IsClosed := by
  intro note hnote
  obtain ⟨rest, hstands⟩ := h.exists_stands hnote
  exact hstands.isClosed

/-- The note is closed, and if its badge has no link, it is for the next release. -/
def IsLinkable (pair : Bool × VersionNote) : Prop :=
  pair.2.IsClosed ∧ (pair.1 = false → pair.2.version = "next release".toList)

/-- Badges in the place of closed notes give what rendering the text gives only if these are the
notes of the text, and the badges are linked as theirs. -/
theorem eq_cut_of_text_badgeOf {address text : List Char} {other : Cut (Bool × VersionNote)}
    (hfinds : ∀ pair ∈ other.finds, IsLinkable pair)
    (htext : other.text (VersionNote.source ∘ Prod.snd) = text)
    (hbadges : other.text (badgeOf address) =
      (versionNotes.cut text).text (badgeText address)) :
    other = (versionNotes.cut text).map withLink id := by
  obtain ⟨first, others⟩ := other
  -- From the left: what the scan finds in the text is found in the cut, and nothing else is.
  fun_induction Matcher.pieces versionNotes text generalizing first others with
  | case1 =>
      cases first with
      | cons d first => cases htext
      | nil =>
          cases others with
          | nil =>
              rw [Matcher.cut_nil]
              rfl
          | cons pair others =>
              obtain ⟨more, hmore⟩ := (hfinds _ (List.mem_cons_self ..)).1.exists_source_eq
              rw [Cut.text_found, Function.comp_apply, hmore] at htext
              cases htext
  | case2 c cs found rest hfound _ ih =>
      obtain ⟨hsource, hstands⟩ := versionNotes_recognises.at?_iff.mp hfound
      rw [Matcher.cut_of_found _ hfound, Cut.text_found] at hbadges
      rw [Matcher.cut_of_found _ hfound]
      cases first with
      | cons d first =>
          -- Rendering puts a badge where the cut keeps a character.
          refine (not_kept_of_badge hstands.isClosed ?_ ?_ (htext.trans hsource.symm) hbadges).elim
          · apply Cut.head?_tailText
            intro pair hpair
            exact (hfinds _ (List.mem_map_of_mem hpair)).1.exists_source_eq
          · apply Cut.head?_tailText
            intro pair hpair
            obtain ⟨more, hmore⟩ := exists_badgeOf address pair.1
            exact ⟨_, hmore⟩
      | nil =>
          cases others with
          | nil => cases htext
          | cons pair others =>
              obtain ⟨⟨linked, note⟩, kept⟩ := pair
              obtain ⟨hclosed, hlinked⟩ := hfinds _ (List.mem_cons_self ..)
              rw [Cut.text_found] at htext hbadges
              rw [badgeText_eq_badgeOf] at hbadges
              obtain ⟨heq, hrest, hmore⟩ := eq_of_badgeOf_append_eq hclosed hlinked hstands
                (htext.trans hsource.symm) hbadges
              have hothers : ∀ pair ∈ Cut.finds ⟨kept, others⟩, IsLinkable pair :=
                fun pair hpair => hfinds pair (List.mem_cons_of_mem _ hpair)
              have hcut := ih kept others hothers hrest hmore
              obtain ⟨rfl, rfl⟩ := Cut.mk.inj hcut
              rw [heq]
              rfl
  | case3 c cs hnone ih =>
      cases first with
      | cons d first =>
          obtain ⟨rfl, hcs⟩ := List.cons.inj htext
          rw [Matcher.cut_of_none _ hnone] at hbadges ⊢
          have hcut := ih first others hfinds hcs (List.cons.inj hbadges).2
          obtain ⟨rfl, rfl⟩ := Cut.mk.inj hcut
          rfl
      | nil =>
          cases others with
          | nil => cases htext
          | cons pair others =>
              -- The cut has a note where the scan finds none, though a closing tag follows.
              have hbegins := (hfinds _ (List.mem_cons_self ..)).1.beginsNote
                (Cut.text (VersionNote.source ∘ Prod.snd) ⟨pair.2, others⟩)
              rw [← htext, Cut.text_found] at hnone
              exact absurd hbegins (versionNotes_recognises.at?_eq_none_iff.mp hnone)

section Order

variable {stripper : MarkerStripper} {renderer : BadgeRenderer} {text : String}
  {cut : Cut VersionNote}

theorem isCutAtNotes_iff : IsCutAtNotes text cut ↔ cut = versionNotes.cut text.toList := by
  constructor
  · intro h
    exact versionNotes_recognises.eq_cut h.1 h.2
  · rintro rfl
    exact ⟨versionNotes.cut_text_source _, versionNotes_recognises.isScan_cut _⟩

/-- Rendering and then stripping puts badges with stripped versions in the place of the notes. -/
theorem strip_render_eq_badges (h : stripper.SparesMarks)
    (haddress : ',' ∉ renderer.repository.toList) (hcut : IsCutAtNotes text cut) :
    (stripper.strip (renderer.render text)).toList =
      (cut.map (fun note => (isLinked note, stripper.stripNote note)) stripper.stripChars).text
        (badgeOf renderer.repository.toList) := by
  rw [MarkerStripper.strip, String.toList_ofList, render_eq_badges _ hcut, Cut.text_map]
  apply Cut.filter_text
  intro note hnote kept rest
  rw [badgeText_eq_badgeOf]
  exact stripChars_badgeOf h haddress _ (isClosed_of_isScan hcut.2 note hnote) _ _

theorem strip_eq_text (h : stripper.SparesMarks) (hcut : IsCutAtNotes text cut) :
    (stripper.strip text).toList =
      (cut.map stripper.stripNote stripper.stripChars).text VersionNote.source := by
  rw [MarkerStripper.strip, String.toList_ofList, ← hcut.1, Cut.text_map]
  apply Cut.filter_text
  intro note hnote kept rest
  exact MarkerStripper.stripChars_source h (isClosed_of_isScan hcut.2 note hnote) _ _

theorem version_stripNote_of_next (stripper : MarkerStripper) {note : VersionNote}
    (h : note.version = "next release".toList) :
    (stripper.stripNote note).version = "next release".toList := by
  rw [MarkerStripper.stripNote, h]
  exact stripper.stripChars_plain (by decide)

theorem isLinkable_stripNote {note : VersionNote} (h : note.IsClosed) :
    IsLinkable (isLinked note, stripper.stripNote note) :=
  ⟨MarkerStripper.stripNote_isClosed h, fun hlinked =>
    version_stripNote_of_next _ ((isLinked_eq_false_iff note).mp hlinked)⟩

/-- The badge of the next release has no link before stripping and after it, and another badge keeps
its link unless its version becomes the next release. -/
theorem isLinked_stripNote_iff (note : VersionNote) :
    isLinked note = isLinked (stripper.stripNote note) ↔
      (stripper.stripChars note.version = "next release".toList →
        note.version = "next release".toList) := by
  constructor
  · intro heq hstripped
    rw [← isLinked_eq_false_iff, heq]
    exact (isLinked_eq_false_iff _).mpr hstripped
  · intro himp
    by_cases hversion : note.version = "next release".toList
    · have hstripped := version_stripNote_of_next stripper hversion
      rw [(isLinked_eq_false_iff _).mpr hversion, (isLinked_eq_false_iff _).mpr hstripped]
    · have hstripped : (stripper.stripNote note).version ≠ "next release".toList :=
        mt himp hversion
      rw [eq_true_of_ne_false (mt (isLinked_eq_false_iff _).mp hversion),
        eq_true_of_ne_false (mt (isLinked_eq_false_iff _).mp hstripped)]

/-- The order of the hooks does not matter exactly if the notes of the stripped page are those of
the page with their versions stripped, and no version becomes the next release by it. -/
theorem render_strip_eq_iff (h : stripper.SparesMarks)
    (haddress : ',' ∉ renderer.repository.toList) (hcut : IsCutAtNotes text cut) :
    renderer.render (stripper.strip text) = stripper.strip (renderer.render text) ↔
      IsCutAtNotes (stripper.strip text) (cut.map stripper.stripNote stripper.stripChars) ∧
        ∀ note ∈ cut.finds, stripper.stripChars note.version = "next release".toList →
          note.version = "next release".toList := by
  -- The badges of the page, with stripped versions, against those of the stripped page.
  have hbadges : renderer.render (stripper.strip text) = stripper.strip (renderer.render text) ↔
      cut.map (fun note => (isLinked note, stripper.stripNote note)) stripper.stripChars =
        (versionNotes.cut (stripper.strip text).toList).map withLink id := by
    rw [← String.toList_inj, render_eq_badges _ (isCutAtNotes_iff.mpr rfl),
      strip_render_eq_badges h haddress hcut]
    constructor
    · intro heq
      refine eq_cut_of_text_badgeOf ?_ ?_ heq.symm
      · rw [Cut.finds_map]
        intro pair hpair
        obtain ⟨note, hnote, rfl⟩ := List.mem_map.mp hpair
        exact isLinkable_stripNote (isClosed_of_isScan hcut.2 note hnote)
      · rw [strip_eq_text h hcut, Cut.text_map, Cut.text_map stripper.stripNote]
        rfl
    · intro heq
      rw [heq, Cut.text_map, Cut.map_id]
      exact congrArg (Cut.text · _) (funext (badgeText_eq_badgeOf _))
  rw [hbadges, isCutAtNotes_iff]
  refine Cut.map_pair_eq_iff.trans (and_congr_right' ?_)
  exact forall₂_congr fun note _ => isLinked_stripNote_iff note

end Order

theorem sparesMarks_default : MarkerStripper.default.SparesMarks := by
  intro name hname mark hmark
  obtain rfl : name = MarkerStripper.defaultName := List.mem_singleton.mp hname
  simp only [MarkerStripper.marks, List.mem_cons, List.not_mem_nil, or_false] at hmark
  rcases hmark with rfl | rfl | rfl <;> decide

theorem comma_not_mem_repository_default : ',' ∉ default.repository.toList := by
  decide +kernel

/-- There is exactly one cut of a text at version notes. It tells whether the order of the default
hooks matters: it does not exactly if stripping what is found and what is kept gives the cut of the
stripped text, and makes no other version the next release. -/
theorem default_render_strip_eq_iff (text : String) :
    (∃! cut, IsCutAtNotes text cut) ∧ ∀ cut, IsCutAtNotes text cut →
      (default.render (MarkerStripper.default.strip text) =
          MarkerStripper.default.strip (default.render text) ↔
        IsCutAtNotes (MarkerStripper.default.strip text)
            (cut.map MarkerStripper.default.stripNote MarkerStripper.default.stripChars) ∧
          ∀ note ∈ cut.finds,
            MarkerStripper.default.stripChars note.version = "next release".toList →
              note.version = "next release".toList) :=
  ⟨existsUnique_cut text, fun _ hcut =>
    render_strip_eq_iff sparesMarks_default comma_not_mem_repository_default hcut⟩

/-- The order matters where a marker stands in a closing tag, and where one stands in the version of
the next release. -/
theorem default_render_strip_ne :
    (default.render (MarkerStripper.default.strip "<sup>Since: 1</su,must-failp>") =
        "<span class=\"badge\">[Since: 1](https://github.com/YaLTeR/niri/releases/tag/v1)</span>" ∧
      MarkerStripper.default.strip (default.render "<sup>Since: 1</su,must-failp>") =
        "<sup>Since: 1</sup>") ∧
    default.render (MarkerStripper.default.strip "<sup>Since: next,must-fail release</sup>") ≠
      MarkerStripper.default.strip (default.render "<sup>Since: next,must-fail release</sup>") := by
  decide +kernel

end BadgeRenderer

end BookFilter
