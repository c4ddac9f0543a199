import BookFilter.Proofs.HookOrder
import Mathlib.Data.List.Infix

/-!
# Pages on which the order of the hooks does not matter

In the first line of a code fence a marker is followed by a comma or by the end of the line. No tag
and no preposition goes on with either, so where all markers are followed so, deleting them makes up
no note and breaks none: what is found in the stripped page is what is found in the page, stripped.
-/

namespace BookFilter

open Text

namespace MarkerStripper

variable {stripper : MarkerStripper}

/-- The marker at the start of a text and the text after it. -/
def marker? (stripper : MarkerStripper) (text : List Char) : Option (List Char × List Char) :=
  BookFilter.marker? (stripper.names.map String.toList) text

theorem marker?_cons_eq_some {c : Char} {cs marker rest : List Char}
    (h : stripper.marker? (c :: cs) = some (marker, rest)) :
    c = ',' ∧ marker ++ rest = c :: cs ∧
      ∃ name ∈ stripper.names, SameFold (',' :: name.toList) marker := by
  obtain ⟨happ, chars, hchars, hfold⟩ := marker?_eq_some h
  obtain ⟨inner, rfl, -⟩ := SameFold.exists_cons foldsAlone_comma hfold
  obtain ⟨name, hname, rfl⟩ := List.mem_map.mp hchars
  exact ⟨(List.cons.inj happ).1.symm, happ, name, hname, hfold⟩

theorem angle_not_mem_marker (h : stripper.SparesMarks) {c : Char} {cs marker rest : List Char}
    (hmarker : stripper.marker? (c :: cs) = some (marker, rest)) : '<' ∉ marker := by
  obtain ⟨-, -, name, hname, hfold⟩ := marker?_cons_eq_some hmarker
  apply hfold.not_mem foldsAlone_angle
  simp [h name hname '<' (by decide)]

theorem stripChars_nil : stripper.stripChars [] = [] :=
  stripChars_plain List.not_mem_nil

theorem stripChars_of_marker {text marker rest : List Char}
    (h : stripper.marker? text = some (marker, rest)) :
    stripper.stripChars text = stripper.stripChars rest := by
  rw [stripChars_eq, stripChars_eq, Matcher.replace, Matcher.pieces_of_found _ h]
  rfl

theorem stripChars_of_none {c : Char} {cs : List Char} (h : stripper.marker? (c :: cs) = none) :
    stripper.stripChars (c :: cs) = c :: stripper.stripChars cs := by
  rw [stripChars_eq, stripChars_eq, Matcher.replace, Matcher.pieces_of_none _ h]
  rfl

section Tail

variable {tail : List Char}

theorem marker?_append (h : stripper.SparesMarks) (htail : ∀ c ∈ tail.head?, c = '<')
    (text : List Char) :
    stripper.marker? (text ++ tail) =
      (stripper.marker? text).map fun (marker, rest) => (marker, rest ++ tail) :=
  (h.isLocalAt (by decide)).at?_append htail text

theorem stripChars_of_marker_append (h : stripper.SparesMarks) (htail : ∀ c ∈ tail.head?, c = '<')
    {marker text : List Char}
    (hmarker : stripper.marker? (marker ++ (text ++ tail)) = some (marker, text ++ tail)) :
    stripper.stripChars (marker ++ text) = stripper.stripChars text := by
  rw [← List.append_assoc, marker?_append h htail, Option.map_eq_some_iff] at hmarker
  obtain ⟨⟨found, rest⟩, hfound, heq⟩ := hmarker
  obtain ⟨rfl, hrest⟩ := Prod.mk.inj heq
  rw [List.append_cancel_right hrest] at hfound
  exact stripChars_of_marker hfound

theorem stripChars_of_none_append (h : stripper.SparesMarks) (htail : ∀ c ∈ tail.head?, c = '<')
    {c : Char} {text : List Char} (hnone : stripper.marker? (c :: (text ++ tail)) = none) :
    stripper.stripChars (c :: text) = c :: stripper.stripChars text := by
  rw [← List.cons_append, marker?_append h htail, Option.map_eq_none_iff] at hnone
  exact stripChars_of_none hnone

end Tail

/-- The scan for markers as an induction: a marker is passed over, any other character is kept. -/
@[elab_as_elim]
theorem scan_induction (stripper : MarkerStripper) {motive : List Char → Prop} (nil : motive [])
    (marker : ∀ c cs marker rest, stripper.marker? (c :: cs) = some (marker, rest) →
      motive rest → motive (c :: cs))
    (kept : ∀ c cs, stripper.marker? (c :: cs) = none → motive cs → motive (c :: cs))
    (text : List Char) : motive text := by
  fun_induction Matcher.pieces (markers (stripper.names.map String.toList)) text with
  | case1 => exact nil
  | case2 c cs found rest hfound _ ih => exact marker c cs found rest hfound ih
  | case3 c cs hnone ih => exact kept c cs hnone ih

/-- Every marker in the text is followed by nothing, a comma, or a line feed. -/
def IsWhole (stripper : MarkerStripper) (text : List Char) : Prop :=
  ∀ after ∈ text.tails, ∀ found ∈ stripper.marker? after,
    found.2.head? ∈ [none, some ',', some '\n']

instance (stripper : MarkerStripper) (text : List Char) : Decidable (stripper.IsWhole text) :=
  inferInstanceAs (Decidable (∀ after ∈ text.tails, ∀ found ∈ stripper.marker? after,
    found.2.head? ∈ [none, some ',', some '\n']))

theorem IsWhole.next {text marker rest : List Char} (h : stripper.IsWhole text)
    (hmarker : stripper.marker? text = some (marker, rest)) :
    ∀ c ∈ rest.head?, c = ',' ∨ c = '\n' := by
  intro c hc
  have hnext := h text ((List.mem_tails _ _).mpr List.suffix_rfl) (marker, rest) hmarker
  rw [show rest.head? = some c from hc] at hnext
  simpa using hnext

theorem IsWhole.of_append {before text : List Char} (h : stripper.IsWhole (before ++ text)) :
    stripper.IsWhole text := by
  intro after hafter
  have hsuffix : after <:+ before ++ text :=
    ((List.mem_tails _ _).mp hafter).trans (List.suffix_append _ _)
  exact h after ((List.mem_tails _ _).mpr hsuffix)

theorem IsWhole.of_cons {c : Char} {text : List Char} (h : stripper.IsWhole (c :: text)) :
    stripper.IsWhole text :=
  IsWhole.of_append (show stripper.IsWhole ([c] ++ text) from h)

/-- Where markers are whole, a literal without comma and line feed is found in the stripped text
where it is found in the text. -/
theorem splitFolded?_stripChars {literal text : List Char} (hcomma : ',' ∉ literal)
    (hline : '\n' ∉ literal) (h : stripper.IsWhole text) :
    splitFolded? literal (stripper.stripChars text) =
      (splitFolded? literal text).map fun (matched, rest) =>
        (matched, stripper.stripChars rest) := by
  induction text using stripper.scan_induction generalizing literal with
  | nil =>
      rw [stripChars_nil]
      cases literal with
      | nil => simp [splitFolded?, stripChars_nil]
      | cons p ps => rfl
  | marker c cs marker rest hmarker ih =>
      cases literal with
      | nil => rfl
      | cons p ps =>
          obtain ⟨rfl, happ, -⟩ := marker?_cons_eq_some hmarker
          have hrest : stripper.IsWhole rest := IsWhole.of_append (happ.symm ▸ h)
          have hnone : splitFolded? (p :: ps) rest = none := by
            cases rest with
            | nil => rfl
            | cons d rest =>
                -- Neither a comma nor a line feed begins the literal.
                rcases h.next hmarker d rfl with rfl | rfl
                · exact splitFolded?_of_head foldsAlone_comma (List.ne_of_not_mem_cons hcomma) ..
                · exact splitFolded?_of_head foldsAlone_lineFeed (List.ne_of_not_mem_cons hline) ..
          rw [stripChars_of_marker hmarker, ih hcomma hline hrest, hnone,
            splitFolded?_of_head foldsAlone_comma (List.ne_of_not_mem_cons hcomma)]
  | kept c cs hnone ih =>
      cases literal with
      | nil => rfl
      | cons p ps =>
          simp only [List.mem_cons, not_or] at hcomma hline
          rw [stripChars_of_none hnone, splitFolded?, splitFolded?]
          split
          · rw [ih hcomma.2 hline.2 h.of_cons, Option.map_map, Option.map_map]
            rfl
          · rfl

theorem IsWhole.of_split {literal text matched rest : List Char} (h : stripper.IsWhole text)
    (hsplit : splitFolded? literal text = some (matched, rest)) : stripper.IsWhole rest :=
  IsWhole.of_append ((splitFolded?_append hsplit).symm ▸ h)

theorem opener?_stripChars {text : List Char} (h : stripper.IsWhole text) :
    VersionNote.opener? (stripper.stripChars text) =
      (VersionNote.opener? text).map fun (tag, preposition, separator, rest) =>
        (tag, preposition, separator, stripper.stripChars rest) := by
  have htag : ',' ∉ "<sup>".toList ∧ '\n' ∉ "<sup>".toList := by decide
  have huntil : ',' ∉ "Until".toList ∧ '\n' ∉ "Until".toList := by decide
  have hsince : ',' ∉ "Since".toList ∧ '\n' ∉ "Since".toList := by decide
  have hseparator : ',' ∉ ": ".toList ∧ '\n' ∉ ": ".toList := by decide
  rw [VersionNote.opener?, VersionNote.opener?, splitFolded?_stripChars htag.1 htag.2 h]
  cases htagged : splitFolded? "<sup>".toList text with
  | none => rfl
  | some tagged =>
      have hrest := h.of_split htagged
      simp only [Option.map_some, Option.bind_eq_bind, Option.bind_some,
        splitFolded?_stripChars huntil.1 huntil.2 hrest,
        splitFolded?_stripChars hsince.1 hsince.2 hrest, ← Option.map_or]
      cases hplaced : (splitFolded? "Until".toList tagged.2).or
        (splitFolded? "Since".toList tagged.2) with
      | none => rfl
      | some placed =>
          have hrest' : stripper.IsWhole placed.2 := by
            rcases Option.or_eq_some_iff.mp hplaced with hplaced | ⟨-, hplaced⟩
            · exact hrest.of_split hplaced
            · exact hrest.of_split hplaced
          simp only [Option.map_some, Option.bind_some,
            splitFolded?_stripChars hseparator.1 hseparator.2 hrest']
          cases splitFolded? ": ".toList placed.2 <;> rfl

/-- A version goes on over what cannot begin a closing tag. -/
theorem version?_append {plain : List Char} (hmark : '<' ∉ plain) (hline : '\n' ∉ plain)
    (rest : List Char) :
    VersionNote.version? (plain ++ rest) =
      (VersionNote.version? rest).map fun (version, closer, after) =>
        (plain ++ version, closer, after) := by
  induction plain with
  | nil => simp
  | cons c cs ih =>
      simp only [List.mem_cons, not_or] at hmark hline
      have hcloser : splitFolded? "</sup>".toList (c :: (cs ++ rest)) = none :=
        splitFolded?_of_ne foldsAlone_angle (Ne.symm hmark.1) _ _
      rw [List.cons_append, VersionNote.version?, hcloser, if_neg (Ne.symm hline.1),
        ih hmark.2 hline.2, Option.map_map]
      rfl

theorem head_closer {text version closer rest : List Char}
    (h : VersionNote.version? text = some (version, closer, rest)) :
    version ++ (closer ++ rest) = text ∧ ∀ c ∈ (closer ++ rest).head?, c = '<' := by
  obtain ⟨happ, hversion⟩ := VersionNote.version?_eq_some_iff.mp h
  obtain ⟨inner, rfl, -⟩ := VersionNote.exists_closer hversion.closer_eq
  exact ⟨happ, by simp⟩

/-- The stretch before the first note goes on with the note or with nothing. -/
theorem exists_cut_tail (text : List Char) :
    ∃ tail, (versionNotes.cut text).first ++ tail = text ∧ ∀ c ∈ tail.head?, c = '<' := by
  refine ⟨Cut.tailText versionNotes.source (versionNotes.cut text).others,
    versionNotes.cut_text_source text, ?_⟩
  apply Cut.head?_tailText
  intro pair hpair
  have hclosed := BadgeRenderer.isClosed_of_isScan (versionNotes_recognises.isScan_cut text)
  exact (hclosed pair.1 (List.mem_map_of_mem hpair)).exists_source_eq

/-- No note begins where no tag does. -/
theorem cut_append {plain : List Char} (h : '<' ∉ plain) (rest : List Char) :
    versionNotes.cut (plain ++ rest) =
      ⟨plain ++ (versionNotes.cut rest).first, (versionNotes.cut rest).others⟩ := by
  induction plain with
  | nil => rfl
  | cons c cs ih =>
      simp only [List.mem_cons, not_or] at h
      have hnone : versionNotes.at? (c :: (cs ++ rest)) = none := by
        change VersionNote.at? _ = none
        have htag : splitFolded? "<sup>".toList (c :: (cs ++ rest)) = none :=
          splitFolded?_of_ne foldsAlone_angle (Ne.symm h.1) _ _
        rw [VersionNote.at?, VersionNote.opener?, htag]
        rfl
      rw [List.cons_append, Matcher.cut_of_none _ hnone, ih h.2]
      rfl

/-- Stripping leaves nothing of a text in front of a tag only if the text is empty. -/
theorem eq_nil_of_stripChars_eq_nil (hmarks : stripper.SparesMarks) {text rest : List Char}
    (h : stripper.IsWhole (text ++ '<' :: rest)) (hnil : stripper.stripChars text = []) :
    text = [] := by
  induction text using stripper.scan_induction with
  | nil => rfl
  | marker c cs marker after hmarker ih =>
      obtain ⟨-, happ, -⟩ := marker?_cons_eq_some hmarker
      have htail : ∀ d ∈ ('<' :: rest).head?, d = '<' := by simp
      have hmarker' := marker?_append hmarks htail (c :: cs)
      rw [stripChars_of_marker hmarker] at hnil
      rw [hmarker, Option.map_some] at hmarker'
      have hwhole : stripper.IsWhole (marker ++ (after ++ '<' :: rest)) := by
        rwa [← List.append_assoc, happ]
      obtain rfl := ih hwhole.of_append hnil
      -- A marker at the end of the text stands in front of the tag.
      exact absurd (h.next hmarker' '<' rfl) (by decide)
  | kept c cs hnone ih =>
      rw [stripChars_of_none hnone] at hnil
      cases hnil

/-- Where markers are whole, no other version becomes the next release. -/
theorem version_eq_next (hmarks : stripper.SparesMarks) {version rest : List Char}
    (h : stripper.IsWhole (version ++ '<' :: rest))
    (hnext : stripper.stripChars version = "next release".toList) :
    version = "next release".toList := by
  have hplain : ',' ∉ "next release".toList ∧ '\n' ∉ "next release".toList := by decide
  have hmark : '<' ∉ "next release".toList := by decide
  have htail : ∀ c ∈ ('<' :: rest).head?, c = '<' := by simp
  have hsplit := splitFolded?_stripChars hplain.1 hplain.2 h
  rw [stripChars_append_mark hmarks (by decide), hnext,
    splitFolded?_eq_some_iff.mpr ⟨rfl, rfl⟩] at hsplit
  obtain ⟨⟨matched, after⟩, hfound, heq⟩ := Option.map_eq_some_iff.mp hsplit.symm
  obtain ⟨rfl, -⟩ := Prod.mk.inj heq
  obtain ⟨more, rfl⟩ : "next release".toList <+: version :=
    prefix_of_append_eq hmark htail (splitFolded?_append hfound).symm
  have hmore : stripper.stripChars more = [] := by
    rw [stripper.stripChars_append_plain hplain.1] at hnext
    exact List.append_right_eq_self.mp hnext
  rw [List.append_assoc] at h
  rw [eq_nil_of_stripChars_eq_nil hmarks h.of_append hmore, List.append_nil]

section Notes

variable (hmarks : stripper.SparesMarks) (hlines : ∀ name ∈ stripper.names, '\n' ∉ name.toList)

include hmarks hlines

theorem version?_stripChars {text : List Char} (h : stripper.IsWhole text) :
    VersionNote.version? (stripper.stripChars text) =
      (VersionNote.version? text).map fun (version, closer, rest) =>
        (stripper.stripChars version, closer, stripper.stripChars rest) := by
  induction text using stripper.scan_induction with
  | nil =>
      rw [stripChars_nil]
      rfl
  | marker c cs marker rest hmarker ih =>
      obtain ⟨-, happ, name, hname, hfold⟩ := marker?_cons_eq_some hmarker
      have hmark := angle_not_mem_marker hmarks hmarker
      have hline : '\n' ∉ marker := hfold.not_mem foldsAlone_lineFeed (by simp [hlines name hname])
      rw [← happ] at hmarker h ⊢
      rw [stripChars_of_marker hmarker, ih h.of_append, version?_append hmark hline, Option.map_map]
      cases hversion : VersionNote.version? rest with
      | none => rfl
      | some found =>
          obtain ⟨rfl, htail⟩ := head_closer hversion
          simp only [Option.map_some, Function.comp_apply,
            stripChars_of_marker_append hmarks htail hmarker]
  | kept c cs hnone ih =>
      have hcloser : ',' ∉ "</sup>".toList ∧ '\n' ∉ "</sup>".toList := by decide
      have hsplit := splitFolded?_stripChars hcloser.1 hcloser.2 h
      rw [stripChars_of_none hnone] at hsplit ⊢
      rw [VersionNote.version?, VersionNote.version?, hsplit]
      cases splitFolded? "</sup>".toList (c :: cs) with
      | some pair => simp [stripChars_nil]
      | none =>
          simp only [Option.map_none]
          split
          · rfl
          · rw [ih h.of_cons, Option.map_map, Option.map_map]
            cases hversion : VersionNote.version? cs with
            | none => rfl
            | some found =>
                obtain ⟨rfl, htail⟩ := head_closer hversion
                simp only [Option.map_some, Function.comp_apply,
                  stripChars_of_none_append hmarks htail hnone]

/-- Where markers are whole, the note found in the stripped text is the one found in the text,
stripped. -/
theorem at?_stripChars {text : List Char} (h : stripper.IsWhole text) :
    versionNotes.at? (stripper.stripChars text) =
      (versionNotes.at? text).map fun (note, rest) =>
        (stripper.stripNote note, stripper.stripChars rest) := by
  change VersionNote.at? (stripper.stripChars text) = (VersionNote.at? text).map _
  rw [VersionNote.at?, VersionNote.at?, opener?_stripChars h]
  cases hopener : VersionNote.opener? text with
  | none => rfl
  | some opened =>
      have hrest : stripper.IsWhole opened.2.2.2 :=
        IsWhole.of_append ((VersionNote.opener?_append hopener).1.symm ▸ h)
      simp only [Option.map_some, Option.bind_eq_bind, Option.bind_some,
        version?_stripChars hmarks hlines hrest]
      cases VersionNote.version? opened.2.2.2 <;> rfl

/-- Where markers are whole, the notes of the stripped text are those of the text, stripped. -/
theorem cut_stripChars {text : List Char} (h : stripper.IsWhole text) :
    versionNotes.cut (stripper.stripChars text) =
      (versionNotes.cut text).map stripper.stripNote stripper.stripChars := by
  -- A scan for notes goes on after a note, one for markers after a marker: neither follows the
  -- other, so the induction is on the length.
  induction hlength : text.length using Nat.strongRecOn generalizing text with
  | ind length ih =>
      subst hlength
      cases text with
      | nil =>
          rw [stripChars_nil, Matcher.cut_nil, Cut.map, stripChars_nil]
          rfl
      | cons c cs =>
          have hat := at?_stripChars hmarks hlines h
          cases hfound : versionNotes.at? (c :: cs) with
          | some pair =>
              obtain ⟨note, rest⟩ := pair
              have hrest : stripper.IsWhole rest :=
                IsWhole.of_append ((versionNotes.source_append hfound).symm ▸ h)
              have hcut := ih rest.length (versionNotes.length_lt hfound) hrest rfl
              rw [hfound, Option.map_some] at hat
              rw [Matcher.cut_of_found _ hat, Matcher.cut_of_found _ hfound, hcut, Cut.map,
                Cut.map, stripChars_nil]
              rfl
          | none =>
              cases hmarker : stripper.marker? (c :: cs) with
              | some pair =>
                  obtain ⟨marker, rest⟩ := pair
                  obtain ⟨-, happ, -⟩ := marker?_cons_eq_some hmarker
                  have hrest : stripper.IsWhole rest := IsWhole.of_append (happ.symm ▸ h)
                  have hcut := ih rest.length ((markers _).length_lt hmarker) hrest rfl
                  obtain ⟨tail, htext, htail⟩ := exists_cut_tail rest
                  have hfirst : stripper.stripChars (marker ++ (versionNotes.cut rest).first) =
                      stripper.stripChars (versionNotes.cut rest).first := by
                    apply stripChars_of_marker_append hmarks htail
                    rw [htext, happ, hmarker]
                  rw [stripChars_of_marker hmarker, hcut, ← happ,
                    cut_append (angle_not_mem_marker hmarks hmarker), Cut.map, Cut.map, hfirst]
              | none =>
                  have hcut := ih cs.length (Nat.lt_succ_self _) h.of_cons rfl
                  obtain ⟨tail, htext, htail⟩ := exists_cut_tail cs
                  have hfirst : stripper.stripChars (c :: (versionNotes.cut cs).first) =
                      c :: stripper.stripChars (versionNotes.cut cs).first := by
                    apply stripChars_of_none_append hmarks htail
                    rw [htext, hmarker]
                  rw [hfound, Option.map_none, stripChars_of_none hmarker] at hat
                  rw [stripChars_of_none hmarker, Matcher.cut_of_none _ hat,
                    Matcher.cut_of_none _ hfound, hcut, Cut.map, Cut.map, hfirst]

end Notes

end MarkerStripper

namespace BadgeRenderer

variable {stripper : MarkerStripper} {renderer : BadgeRenderer}

/-- On a page whose markers are whole, the order of the hooks does not matter. -/
theorem render_strip_eq_of_isWhole (hmarks : stripper.SparesMarks)
    (hlines : ∀ name ∈ stripper.names, '\n' ∉ name.toList)
    (haddress : ',' ∉ renderer.repository.toList) {text : String}
    (h : stripper.IsWhole text.toList) :
    renderer.render (stripper.strip text) = stripper.strip (renderer.render text) := by
  apply (render_strip_eq_iff hmarks haddress (isCutAtNotes_iff.mpr rfl)).mpr
  constructor
  · rw [isCutAtNotes_iff, MarkerStripper.strip, String.toList_ofList,
      MarkerStripper.cut_stripChars hmarks hlines h]
  · intro note hnote hnext
    have hclosed := isClosed_of_isScan (versionNotes_recognises.isScan_cut _) note hnote
    obtain ⟨opening, closing, -, -, hsource⟩ := hclosed.exists_source
    obtain ⟨before, after, happ⟩ := Cut.exists_append_of_mem_finds versionNotes.source hnote
    have htext : before ++ '<' :: opening ++ (note.version ++ '<' :: (closing ++ after)) =
        text.toList := by
      rw [← versionNotes.cut_text_source text.toList, ← happ,
        show versionNotes.source note = _ from hsource note.version]
      simp
    rw [← htext] at h
    exact MarkerStripper.version_eq_next hmarks h.of_append hnext

-- The markers of a code fence are whole.
example : MarkerStripper.default.IsWhole "```rust,must-fail,ignore\n<sup>Since: 1</sup>".toList := by
  decide +kernel

end BadgeRenderer

end BookFilter
