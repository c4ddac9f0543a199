import BookFilter.Marker
import BookFilter.Proofs.Cuts
import BookFilter.Proofs.Folding

/-!
# What a stripper deletes

There is exactly one way to cut a text at markers so that each is a marker of the first name in list
order that matches where it begins, and none begins in what is kept. Stripping keeps the stretches
of that cut. A marker that is left over spans a place where something was deleted.
-/

namespace BookFilter

open Text

/-- A marker of the name stands at the start of the text. -/
def BeginsWithMarker (name text : List Char) : Prop :=
  BeginsFolded (',' :: name) text

/-- A marker of one of the names stands at the start of the text. -/
def BeginsWithAnyMarker (names : List (List Char)) (text : List Char) : Prop :=
  ∃ name ∈ names, BeginsWithMarker name text

/-- With `rest` after it, the text is a marker of the first name that matches there. -/
def IsFirstMarker (names : List (List Char)) (marker rest : List Char) : Prop :=
  ∃ before name after, before ++ name :: after = names ∧ SameFold (',' :: name) marker ∧
    ∀ other ∈ before, ¬ BeginsWithMarker other (marker ++ rest)

/-- The comma of a marker is a literal like the name, for nothing else folds to a comma. -/
theorem marker?_eq_findSome? (names : List (List Char)) (text : List Char) :
    marker? names text = names.findSome? fun name => splitFolded? (',' :: name) text := by
  cases text with
  | nil =>
      symm
      rw [marker?, List.findSome?_eq_none_iff]
      · intro name _
        rfl
      · intro t h
        cases h
  | cons c cs =>
      by_cases hc : c = ','
      · subst hc
        simp [marker?, splitFolded?]
      · have hfold : fold ',' ≠ fold c := by
          intro heq
          exact hc ((fold_eq_fold_iff (by decide)).mp heq.symm)
        symm
        rw [marker?, List.findSome?_eq_none_iff]
        · intro name _
          rw [splitFolded?, if_neg hfold]
        · intro t h
          exact hc (List.cons.inj h).1

theorem marker?_eq_some_iff {names : List (List Char)} {text marker rest : List Char} :
    marker? names text = some (marker, rest) ↔
      marker ++ rest = text ∧ IsFirstMarker names marker rest := by
  rw [marker?_eq_findSome?, List.findSome?_eq_some_iff]
  constructor
  · rintro ⟨before, name, after, rfl, hname, hbefore⟩
    obtain ⟨rfl, hfold⟩ := splitFolded?_eq_some_iff.mp hname
    refine ⟨rfl, before, name, after, rfl, hfold, ?_⟩
    intro other hother
    exact splitFolded?_eq_none_iff.mp (hbefore other hother)
  · rintro ⟨rfl, before, name, after, rfl, hfold, hbefore⟩
    refine ⟨before, name, after, rfl, splitFolded?_eq_some_iff.mpr ⟨rfl, hfold⟩, ?_⟩
    intro other hother
    exact splitFolded?_eq_none_iff.mpr (hbefore other hother)

theorem marker?_eq_none_iff {names : List (List Char)} {text : List Char} :
    marker? names text = none ↔ ¬ BeginsWithAnyMarker names text := by
  rw [marker?_eq_findSome?, List.findSome?_eq_none_iff]
  simp only [splitFolded?_eq_none_iff, BeginsWithAnyMarker, BeginsWithMarker, not_exists, not_and]

theorem markers_recognises (names : List (List Char)) :
    (markers names).Recognises (IsFirstMarker names) (BeginsWithAnyMarker names) where
  at?_iff := marker?_eq_some_iff
  at?_eq_none_iff := marker?_eq_none_iff

theorem markers_singleton_at? (name text : List Char) :
    (markers [name]).at? text = splitFolded? (',' :: name) text := by
  change marker? [name] text = _
  rw [marker?_eq_findSome?, List.findSome?_cons, List.findSome?_nil]
  cases splitFolded? (',' :: name) text <;> rfl

/-- The literal and the list with the one name recognise the same markers. -/
theorem markers_mustFail : markers [MarkerStripper.defaultName.toList] = mustFailMarkers := by
  have hat : (markers [MarkerStripper.defaultName.toList]).at? = mustFailMarkers.at? :=
    funext (markers_singleton_at? _)
  rw [markers, mustFailMarkers, Matcher.mk.injEq]
  exact ⟨rfl, hat⟩

namespace MarkerStripper

/-- Whichever way markers are recognised, they are those of the names. -/
theorem matcher_eq (stripper : MarkerStripper) :
    stripper.matcher = markers (stripper.names.map String.toList) := by
  cases stripper with
  | mustFail => exact markers_mustFail.symm
  | named names not_blank => rfl

theorem stripChars_eq (stripper : MarkerStripper) (text : List Char) :
    stripper.stripChars text =
      (markers (stripper.names.map String.toList)).replace (fun _ => []) text := by
  rw [stripChars, matcher_eq]

/-- The list of names is accepted exactly if none of them is blank. -/
theorem ofNames_eq_ok {names : List String} (h : ∀ name ∈ names, isBlank name.toList = false) :
    ofNames names = .ok (.named names h) := by
  unfold ofNames
  split
  · next i hi =>
      obtain ⟨hlt, hblank, -⟩ := List.findIdx?_eq_some_iff_getElem.mp hi
      rw [h _ (List.getElem_mem hlt)] at hblank
      cases hblank
  · rfl

theorem ofNames_eq_error_iff_findIdx? {names : List String} {refusal : BlankName} :
    ofNames names = .error refusal ↔
      ∃ i, names.findIdx? (fun name => isBlank name.toList) = some i ∧ refusal = ⟨i + 1⟩ := by
  unfold ofNames
  split
  · next i hi => simp [hi, eq_comm]
  · next hnone => simp [hnone]

/-- The cuts of a text at the markers of a list of names. -/
def IsCutAtMarkers (names : List String) (text : String) (cut : Cut (List Char)) : Prop :=
  cut.IsScanOf id (IsFirstMarker (names.map String.toList))
    (BeginsWithAnyMarker (names.map String.toList)) text.toList

variable {stripper : MarkerStripper} {text : String} {cut : Cut (List Char)}

theorem existsUnique_cut (stripper : MarkerStripper) (text : String) :
    ∃! cut, IsCutAtMarkers stripper.names text cut :=
  (markers_recognises _).existsUnique_scan text.toList

theorem strip_eq_stretches (h : IsCutAtMarkers stripper.names text cut) :
    (stripper.strip text).toList = cut.stretches.flatten := by
  rw [strip, String.toList_ofList, stripChars_eq, (markers_recognises _).replace_eq _ h,
    Cut.text_erased]

/-- Without names there is nothing to delete. -/
theorem strip_of_names_eq_nil (stripper : MarkerStripper) (h : stripper.names = [])
    (text : String) : stripper.strip text = text := by
  have hcut : IsCutAtMarkers stripper.names text ⟨text.toList, []⟩ := by
    refine ⟨List.append_nil _, ?_, ?_⟩
    · rw [h]
      rintro - - - - ⟨name, hname, -⟩
      cases hname
    · intro before marker kept after happ
      simp at happ
  rw [← String.toList_inj, strip_eq_stretches hcut]
  exact List.append_nil _

/-- No kept stretch holds a marker. -/
theorem not_infix_of_isCut {names : List String} (h : IsCutAtMarkers names text cut)
    {name : String} (hname : name ∈ names) {marker stretch : List Char}
    (hmarker : SameFold (',' :: name.toList) marker) (hmem : stretch ∈ cut.stretches) :
    ¬ marker <:+: stretch := by
  rintro ⟨before, after, happ⟩
  obtain ⟨rest, hquiet⟩ := h.2.quiet_of_mem hmem
  have hne : marker ≠ [] := by
    rintro rfl
    simp [SameFold] at hmarker
  rw [List.append_assoc] at happ
  apply hquiet before (marker ++ after) happ (by simp [hne])
  exact ⟨name.toList, List.mem_map_of_mem hname, marker, after ++ rest, by simp, hmarker⟩

/-- For names that are not blank there is exactly one cut at markers, and stripping gives its
stretches. A marker in the result has the end of a stretch inside it. -/
theorem strip_eq_unique_cut (names : List String)
    (hnames : ∀ name ∈ names, isBlank name.toList = false) :
    ∃ stripper, ofNames names = .ok stripper ∧ ∀ text : String,
      (∃! cut, IsCutAtMarkers names text cut) ∧
      ∀ cut, IsCutAtMarkers names text cut →
        (stripper.strip text).toList = cut.stretches.flatten ∧
        ∀ name ∈ names, ∀ before marker after, SameFold (',' :: name.toList) marker →
          before ++ marker ++ after = (stripper.strip text).toList →
          ∃ left right, left ++ right = cut.stretches ∧
            before.length < left.flatten.length ∧
            left.flatten.length < before.length + marker.length := by
  refine ⟨.named names hnames, ofNames_eq_ok hnames, ?_⟩
  intro text
  refine ⟨existsUnique_cut (.named names hnames) text, ?_⟩
  intro cut hcut
  have hstrip : (strip (.named names hnames) text).toList = cut.stretches.flatten :=
    strip_eq_stretches hcut
  refine ⟨hstrip, ?_⟩
  intro name hname before marker after hmarker happ
  rw [hstrip] at happ
  have hne : marker ≠ [] := by
    rintro rfl
    simp [SameFold] at hmarker
  rcases Cut.infix_or_boundary happ hne with ⟨stretch, hmem, hinfix⟩ | hboundary
  · exact absurd hinfix (not_infix_of_isCut hcut hname hmarker hmem)
  · exact hboundary

/-- The first name wins even where the second one is longer, so the end of that one is left. -/
theorem strip_eq_unique_cut_prefix_name :
    (∀ name ∈ ["must", "must-fail"], isBlank name.toList = false) ∧
      ∃ stripper, ofNames ["must", "must-fail"] = .ok stripper ∧
        ∃ cut, IsCutAtMarkers ["must", "must-fail"] "a,MUST-fail" cut ∧
          (stripper.strip "a,MUST-fail").toList = cut.stretches.flatten ∧
          stripper.strip "a,MUST-fail" = "a-fail" := by
  have hnames : ∀ name ∈ ["must", "must-fail"], isBlank name.toList = false := by decide
  obtain ⟨stripper, hok, hstrip⟩ := strip_eq_unique_cut ["must", "must-fail"] hnames
  obtain ⟨⟨cut, hcut, -⟩, hall⟩ := hstrip "a,MUST-fail"
  have htext : (named ["must", "must-fail"] (by decide)).strip "a,MUST-fail" = "a-fail" := by
    decide +kernel
  refine ⟨hnames, stripper, hok, cut, hcut, (hall cut hcut).1, ?_⟩
  cases (ofNames_eq_ok hnames).symm.trans hok
  exact htext

end MarkerStripper

end BookFilter
