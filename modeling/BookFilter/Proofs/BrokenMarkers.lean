import BookFilter.Proofs.Defaults
import BookFilter.Proofs.NameLists
import BookFilter.Proofs.WholeMarkers

/-!
# Markers in pieces

What a stripper keeps is not looked at again. A marker with other markers inside it is broken: it is
none as it stands, but it becomes one when those inside it are deleted. A stripped text has a marker
in it only where the text had a broken one, and if names hold no comma and none begins with a shorter
one, wherever the text had a broken one. Stripping twice is stripping once for all other texts.
-/

namespace BookFilter

open Text

/-- The text is a marker of one of the names. -/
def IsMarker (names : List String) (text : List Char) : Prop :=
  ∃ name ∈ names, SameFold (',' :: name.toList) text

/-- A marker in pieces, with whole markers between them, so that it is none as it stands. -/
structure IsBrokenMarker (names : List String) (cut : Cut (List Char)) : Prop where
  /-- The pieces make up a marker. -/
  pieces : IsMarker names cut.stretches.flatten
  between : ∀ marker ∈ cut.finds, IsMarker names marker
  first_ne_nil : cut.first ≠ []
  first_lt : cut.first.length < cut.stretches.flatten.length

/-- A broken marker stands in the text. -/
def HasBrokenMarker (names : List String) (text : String) : Prop :=
  ∃ before cut after, before ++ (cut.text id ++ after) = text.toList ∧ IsBrokenMarker names cut

theorem IsMarker.exists_append {names : List String} {first pieces : List Char}
    (h : IsMarker names (first ++ pieces)) (hfirst : first ≠ []) :
    ∃ inner, first = ',' :: inner ∧ ∃ name ∈ names, SameFold name.toList (inner ++ pieces) := by
  obtain ⟨name, hname, hfold⟩ := h
  obtain ⟨rest, happ, hrest⟩ := SameFold.exists_cons foldsAlone_comma hfold
  cases first with
  | nil => exact absurd rfl hfirst
  | cons c inner =>
      obtain ⟨rfl, rfl⟩ := List.cons.inj happ
      exact ⟨inner, rfl, name, hname, hrest⟩

theorem IsMarker.exists_cons {names : List String} {marker : List Char}
    (h : IsMarker names marker) : ∃ inner, marker = ',' :: inner := by
  obtain ⟨name, -, hfold⟩ := h
  obtain ⟨inner, hinner, -⟩ := SameFold.exists_cons foldsAlone_comma hfold
  exact ⟨inner, hinner⟩

namespace MarkerStripper

variable {stripper : MarkerStripper}

theorem isMarker_of_marker? {c : Char} {cs marker rest : List Char}
    (h : stripper.marker? (c :: cs) = some (marker, rest)) : IsMarker stripper.names marker :=
  (marker?_cons_eq_some h).2.2

/-- What is kept at the beginning of a text was there in pieces, with markers between them. -/
theorem exists_cut_of_append_eq {text kept rest : List Char}
    (h : kept ++ rest = stripper.stripChars text) :
    ∃ (cut : Cut (List Char)) (after : List Char), cut.text id ++ after = text ∧
      cut.stretches.flatten = kept ∧ ∀ marker ∈ cut.finds, IsMarker stripper.names marker := by
  induction text using stripper.scan_induction generalizing kept with
  | nil =>
      rw [stripChars_nil] at h
      obtain rfl := (List.append_eq_nil_iff.mp h).1
      exact ⟨⟨[], []⟩, [], rfl, rfl, by simp [Cut.finds]⟩
  | marker c cs marker after hmarker ih =>
      rw [stripChars_of_marker hmarker] at h
      obtain ⟨cut, last, htext, hkept, hfinds⟩ := ih h
      refine ⟨⟨[], (marker, cut.first) :: cut.others⟩, last, ?_, hkept, ?_⟩
      · rw [Cut.text_found, List.append_assoc, htext]
        exact (marker?_cons_eq_some hmarker).2.1
      · rintro other (- | ⟨-, hother⟩)
        · exact isMarker_of_marker? hmarker
        · exact hfinds other hother
  | kept c cs hnone ih =>
      rw [stripChars_of_none hnone] at h
      cases kept with
      | nil => exact ⟨⟨[], []⟩, c :: cs, rfl, rfl, by simp [Cut.finds]⟩
      | cons d kept =>
          obtain ⟨rfl, hkept⟩ := List.cons.inj h
          obtain ⟨cut, last, htext, rfl, hfinds⟩ := ih hkept
          exact ⟨⟨d :: cut.first, cut.others⟩, last, congrArg (List.cons d) htext, rfl, hfinds⟩

/-- A marker at the beginning of what is kept was broken, for as it stands it would not be kept. -/
theorem exists_broken_of_kept {c : Char} {cs : List Char} (hnone : stripper.marker? (c :: cs) = none)
    (hbegins : BeginsWithAnyMarker (stripper.names.map String.toList)
      (c :: stripper.stripChars cs)) :
    ∃ cut after, cut.text id ++ after = c :: cs ∧ IsBrokenMarker stripper.names cut := by
  obtain ⟨chars, hchars, matched, rest, happ, hfold⟩ := hbegins
  obtain ⟨name, hname, rfl⟩ := List.mem_map.mp hchars
  obtain ⟨kept, rfl, -⟩ := SameFold.exists_cons foldsAlone_comma hfold
  obtain ⟨rfl, hkept⟩ := List.cons.inj happ
  obtain ⟨⟨first, others⟩, after, htext, rfl, hfinds⟩ := exists_cut_of_append_eq hkept
  refine ⟨⟨',' :: first, others⟩, after, congrArg (List.cons ',') htext,
    ⟨name, hname, hfold⟩, hfinds, List.cons_ne_nil _ _, ?_⟩
  apply Nat.lt_of_not_le
  intro hlength
  -- Otherwise the whole marker is the first piece and stands in the text.
  have hwhole : ',' :: first = ',' :: (first ++ (others.map Prod.snd).flatten) :=
    (List.prefix_append (',' :: first) (others.map Prod.snd).flatten).eq_of_length_le hlength
  apply marker?_eq_none_iff.mp hnone
  refine ⟨name.toList, hchars, ',' :: first, Cut.tailText id others ++ after, ?_, ?_⟩
  · rw [← htext, Cut.text, List.append_assoc]
    rfl
  · rw [hwhole]
    exact hfold

theorem exists_broken_of_append_eq {text before after : List Char}
    (happ : before ++ after = stripper.stripChars text)
    (hbegins : BeginsWithAnyMarker (stripper.names.map String.toList) after) :
    ∃ before cut after, before ++ (cut.text id ++ after) = text ∧
      IsBrokenMarker stripper.names cut := by
  induction text using stripper.scan_induction generalizing before with
  | nil =>
      rw [stripChars_nil, List.append_eq_nil_iff] at happ
      obtain ⟨rfl, rfl⟩ := happ
      exact absurd hbegins (markers_recognises _).not_begins_nil
  | marker c cs marker rest hmarker ih =>
      rw [stripChars_of_marker hmarker] at happ
      obtain ⟨left, cut, right, rfl, hbroken⟩ := ih happ
      refine ⟨marker ++ left, cut, right, ?_, hbroken⟩
      rw [List.append_assoc]
      exact (marker?_cons_eq_some hmarker).2.1
  | kept c cs hnone ih =>
      rw [stripChars_of_none hnone] at happ
      cases before with
      | nil =>
          rw [show after = c :: stripper.stripChars cs from happ] at hbegins
          obtain ⟨cut, right, htext, hbroken⟩ := exists_broken_of_kept hnone hbegins
          exact ⟨[], cut, right, htext, hbroken⟩
      | cons d before =>
          obtain ⟨left, cut, right, rfl, hbroken⟩ := ih (List.cons.inj happ).2
          exact ⟨c :: left, cut, right, rfl, hbroken⟩

/-- A marker in the stripped text was a broken one in the text. -/
theorem hasBrokenMarker_of_hasMarker_strip {text : String}
    (h : HasMarker stripper.names (stripper.strip text)) :
    HasBrokenMarker stripper.names text := by
  obtain ⟨before, after, happ, hbegins⟩ := h
  rw [strip, String.toList_ofList] at happ
  exact exists_broken_of_append_eq happ hbegins

section Broken

variable (hcomma : ∀ name ∈ stripper.names, ',' ∉ name.toList)
  (hfree : IsPrefixFree (stripper.names.map String.toList))

section Pieces

include hfree

theorem stripChars_marker_append {marker : List Char} (h : IsMarker stripper.names marker)
    (rest : List Char) : stripper.stripChars (marker ++ rest) = stripper.stripChars rest := by
  obtain ⟨name, hname, hfold⟩ := h
  apply stripChars_of_marker
  exact (marker?_eq_some_iff_exists hfree).mpr
    ⟨rfl, name.toList, List.mem_map_of_mem hname, hfold⟩

/-- Of the pieces and the markers between them, the pieces are left. -/
theorem stripChars_tailText_append {others : List (List Char × List Char)}
    (hmarkers : ∀ pair ∈ others, IsMarker stripper.names pair.1)
    (hpieces : ',' ∉ (others.map Prod.snd).flatten) (rest : List Char) :
    stripper.stripChars (Cut.tailText id others ++ rest) =
      (others.map Prod.snd).flatten ++ stripper.stripChars rest := by
  induction others with
  | nil => rfl
  | cons pair others ih =>
      obtain ⟨marker, kept⟩ := pair
      rw [List.map_cons, List.flatten_cons, List.mem_append, not_or] at hpieces
      have hothers := ih (fun other hother => hmarkers other (List.mem_cons_of_mem _ hother))
        hpieces.2
      calc stripper.stripChars (Cut.tailText id ((marker, kept) :: others) ++ rest)
          = stripper.stripChars (marker ++ (kept ++ (Cut.tailText id others ++ rest))) := by
            rw [Cut.tailText_cons, List.append_assoc, List.append_assoc]
            rfl
        _ = stripper.stripChars (kept ++ (Cut.tailText id others ++ rest)) :=
            stripChars_marker_append hfree (hmarkers _ (List.mem_cons_self ..)) _
        _ = kept ++ stripper.stripChars (Cut.tailText id others ++ rest) :=
            stripper.stripChars_append_plain hpieces.1 _
        _ = _ := by
            rw [hothers, List.map_cons, List.flatten_cons, List.append_assoc]

end Pieces

section Comma

include hcomma

/-- A marker does not reach over the comma of another one. -/
theorem markers_at?_append_comma (c : Char) (cs rest : List Char) :
    (markers (stripper.names.map String.toList)).at? (c :: cs ++ ',' :: rest) =
      ((markers (stripper.names.map String.toList)).at? (c :: cs)).map fun (marker, after) =>
        (marker, after ++ ',' :: rest) := by
  apply marker?_append_of_forall
  intro chars hchars
  obtain ⟨name, hname, rfl⟩ := List.mem_map.mp hchars
  rw [List.cons_append, splitFolded?, splitFolded?]
  split
  · rw [splitFolded?_append_delimiter foldsAlone_comma (hcomma name hname), Option.map_map,
      Option.map_map]
    rfl
  · rfl

theorem stripChars_append_comma (text rest : List Char) :
    stripper.stripChars (text ++ ',' :: rest) =
      stripper.stripChars text ++ stripper.stripChars (',' :: rest) := by
  have hpieces := Matcher.pieces_append
    (fun c cs => markers_at?_append_comma hcomma c cs rest) text
  simp only [stripChars_eq, Matcher.replace, hpieces, List.flatMap_append]

end Comma

include hcomma hfree

/-- Where a broken marker begins no marker does, for it would end before the comma of a marker
inside, and so be a shorter beginning of the broken one. -/
theorem marker?_first_append {first pieces : List Char}
    (h : IsMarker stripper.names (first ++ pieces)) (hfirst : first ≠ []) (hpieces : pieces ≠ [])
    (rest : List Char) : stripper.marker? (first ++ ',' :: rest) = none := by
  obtain ⟨inner, rfl, name, hname, hfold⟩ := h.exists_append hfirst
  apply marker?_eq_none_iff.mpr
  rintro ⟨other, hother, hbegins⟩
  obtain ⟨matched, after, happ, hmatched⟩ := hbegins.tail
  have hplain : ',' ∉ matched := by
    obtain ⟨string, hstring, rfl⟩ := List.mem_map.mp hother
    exact hmatched.not_mem foldsAlone_comma (hcomma string hstring)
  obtain ⟨last, rfl⟩ : matched <+: inner :=
    prefix_of_append_eq hplain (by simp) (show inner ++ ',' :: rest = _ from happ.symm)
  have hlength : other.length < name.toList.length := by
    have hpos := List.length_pos_of_ne_nil hpieces
    rw [hmatched.length_eq, hfold.length_eq, List.length_append, List.length_append]
    omega
  have hshorter : BeginsFolded other (matched ++ last ++ pieces) :=
    ⟨matched, last ++ pieces, (List.append_assoc ..).symm, hmatched⟩
  have hlonger : BeginsFolded name.toList (matched ++ last ++ pieces) :=
    ⟨_, [], List.append_nil _, hfold⟩
  exact hfree other hother name.toList (List.mem_map_of_mem hname)
    ⟨hshorter.of_length_le hlonger (Nat.le_of_lt hlength), hlength⟩

theorem stripChars_first_append {first pieces : List Char}
    (h : IsMarker stripper.names (first ++ pieces)) (hfirst : first ≠ []) (hpieces : pieces ≠ [])
    (rest : List Char) :
    stripper.stripChars (first ++ ',' :: rest) = first ++ stripper.stripChars (',' :: rest) := by
  have hnone := marker?_first_append hcomma hfree h hfirst hpieces rest
  obtain ⟨inner, rfl, name, hname, hfold⟩ := h.exists_append hfirst
  have hplain : ',' ∉ inner := by
    have hnot := hfold.not_mem foldsAlone_comma (hcomma name hname)
    exact fun hmem => hnot (List.mem_append_left pieces hmem)
  rw [List.cons_append] at hnone ⊢
  rw [stripChars_of_none hnone, stripper.stripChars_append_plain hplain, List.cons_append]

/-- Stripping leaves the pieces of a broken marker, which make up a marker. -/
theorem stripChars_broken_append {cut : Cut (List Char)}
    (h : IsBrokenMarker stripper.names cut) (rest : List Char) :
    stripper.stripChars (cut.text id ++ rest) =
      cut.stretches.flatten ++ stripper.stripChars rest := by
  obtain ⟨first, others⟩ := cut
  obtain ⟨hpieces, hbetween, hfirst, hlt⟩ := h
  have hmarkers : ∀ pair ∈ others, IsMarker stripper.names pair.1 :=
    fun pair hpair => hbetween pair.1 (List.mem_map_of_mem hpair)
  have hothers : (others.map Prod.snd).flatten ≠ [] := by
    intro hnil
    rw [Cut.stretches, List.flatten_cons, hnil, List.append_nil] at hlt
    exact absurd hlt (Nat.lt_irrefl _)
  have hplain : ',' ∉ (others.map Prod.snd).flatten := by
    obtain ⟨inner, -, name, hname, hfold⟩ := hpieces.exists_append hfirst
    have hnot := hfold.not_mem foldsAlone_comma (hcomma name hname)
    exact fun hmem => hnot (List.mem_append_right inner hmem)
  -- The first marker inside begins with its comma.
  obtain ⟨more, hmore⟩ : ∃ more, Cut.tailText id others ++ rest = ',' :: more := by
    cases others with
    | nil => exact absurd rfl hothers
    | cons pair others =>
        obtain ⟨inner, hinner⟩ := (hmarkers pair (List.mem_cons_self ..)).exists_cons
        refine ⟨inner ++ (pair.2 ++ Cut.tailText id others) ++ rest, ?_⟩
        rw [Cut.tailText_cons, id, hinner]
        rfl
  calc stripper.stripChars (Cut.text id ⟨first, others⟩ ++ rest)
      = stripper.stripChars (first ++ ',' :: more) := by
        rw [Cut.text, List.append_assoc, hmore]
    _ = first ++ stripper.stripChars (Cut.tailText id others ++ rest) := by
        rw [stripChars_first_append hcomma hfree hpieces hfirst hothers, hmore]
    _ = first ++ ((others.map Prod.snd).flatten ++ stripper.stripChars rest) := by
        rw [stripChars_tailText_append hfree hmarkers hplain]
    _ = _ := (List.append_assoc ..).symm

/-- A broken marker becomes a marker of the stripped text. -/
theorem hasMarker_strip_of_hasBrokenMarker {text : String}
    (h : HasBrokenMarker stripper.names text) :
    HasMarker stripper.names (stripper.strip text) := by
  obtain ⟨before, cut, after, htext, hbroken⟩ := h
  obtain ⟨name, hname, hfold⟩ := hbroken.pieces
  have hstrip : stripper.stripChars (before ++ (cut.text id ++ after)) =
      stripper.stripChars before ++ (cut.stretches.flatten ++ stripper.stripChars after) := by
    -- A broken marker begins with its comma.
    have hpieces := hbroken.pieces
    rw [Cut.stretches, List.flatten_cons] at hpieces
    obtain ⟨inner, hfirst, -⟩ := hpieces.exists_append hbroken.first_ne_nil
    have hcut : cut.text id ++ after = ',' :: (inner ++ Cut.tailText id cut.others ++ after) := by
      rw [Cut.text, hfirst]
      rfl
    rw [← stripChars_broken_append hcomma hfree hbroken, hcut, stripChars_append_comma hcomma]
  refine ⟨stripper.stripChars before, cut.stretches.flatten ++ stripper.stripChars after, ?_,
    name.toList, List.mem_map_of_mem hname, _, _, rfl, hfold⟩
  rw [strip, String.toList_ofList, ← htext, hstrip]

/-- Where no name holds a comma or begins with a shorter one, stripping twice is stripping once
exactly if there is no broken marker in the text. -/
theorem strip_strip_eq_iff (text : String) :
    stripper.strip (stripper.strip text) = stripper.strip text ↔
      ¬ HasBrokenMarker stripper.names text := by
  rw [strip_eq_self_iff]
  exact not_congr ⟨hasBrokenMarker_of_hasMarker_strip,
    hasMarker_strip_of_hasBrokenMarker hcomma hfree⟩

end Broken

end MarkerStripper

/-- Deleting `must-fail` markers twice is deleting them once exactly if there is no broken one in the
text. -/
theorem stripMustFail_stripMustFail_eq_iff (text : String) :
    stripMustFail (stripMustFail text) = stripMustFail text ↔
      ¬ HasBrokenMarker ["must-fail"] text := by
  have hcomma : ∀ name ∈ MarkerStripper.default.names, ',' ∉ name.toList := by decide
  have hfree : IsPrefixFree (MarkerStripper.default.names.map String.toList) := by decide +kernel
  have hstrip : ∀ text, MarkerStripper.default.strip text = stripMustFail text :=
    MarkerStripper.strip_eq_stripMustFail rfl
  rw [← hstrip, ← hstrip]
  exact MarkerStripper.strip_strip_eq_iff hcomma hfree text

/-- The marker inside is deleted and leaves another one. -/
theorem stripMustFail_stripMustFail_ne :
    stripMustFail ",must,must-fail-fail" = ",must-fail" ∧
      stripMustFail (stripMustFail ",must,must-fail-fail") ≠
        stripMustFail ",must,must-fail-fail" := by
  decide +kernel

end BookFilter
