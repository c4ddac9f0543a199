import BookFilter.Proofs.Stripping

/-!
# Lists of names

Where several names of a list match, the first one wins. A name that begins with an earlier one
never has its turn, so it may as well be left out. Where no name begins with a shorter one, all names
that match at a place match the same text there, and their order does not matter.
-/

namespace BookFilter

open Text

namespace Text

/-- The second text begins with the first one up to case, and goes on after it. -/
def IsProperPrefix (shorter longer : List Char) : Prop :=
  BeginsFolded shorter longer ∧ shorter.length < longer.length

instance (shorter longer : List Char) : Decidable (IsProperPrefix shorter longer) :=
  inferInstanceAs (Decidable (_ ∧ _))

/-- No text of the list begins with a shorter one. -/
def IsPrefixFree (texts : List (List Char)) : Prop :=
  ∀ text ∈ texts, ∀ other ∈ texts, ¬ IsProperPrefix text other

instance (texts : List (List Char)) : Decidable (IsPrefixFree texts) :=
  inferInstanceAs (Decidable (∀ text ∈ texts, ∀ other ∈ texts, ¬ IsProperPrefix text other))

theorem IsPrefixFree.length_le {literals : List (List Char)} (h : IsPrefixFree literals)
    {first second text : List Char} (hfirst : first ∈ literals) (hsecond : second ∈ literals)
    (hbegins : BeginsFolded first text) (hbegins' : BeginsFolded second text) :
    first.length ≤ second.length := by
  apply Nat.le_of_not_lt
  intro hlength
  exact h second hsecond first hfirst ⟨hbegins'.of_length_le hbegins (Nat.le_of_lt hlength), hlength⟩

end Text

/-- An earlier name matches wherever the later one does, so the later one may be left out. -/
theorem marker?_append_cons {before after : List (List Char)} {earlier later : List Char}
    (hearlier : earlier ∈ before) (hbegins : BeginsFolded earlier later) (text : List Char) :
    marker? (before ++ later :: after) text = marker? (before ++ after) text := by
  simp only [marker?_eq_findSome?, List.findSome?_append, List.findSome?_cons]
  cases hbefore : before.findSome? fun name => splitFolded? (',' :: name) text with
  | some found => rfl
  | none =>
      -- No earlier name matches here, so the later one does not either.
      have hnone : ¬ BeginsFolded (',' :: earlier) text :=
        splitFolded?_eq_none_iff.mp (List.findSome?_eq_none_iff.mp hbefore earlier hearlier)
      have hlater : splitFolded? (',' :: later) text = none := by
        apply splitFolded?_eq_none_iff.mpr
        intro hmatch
        exact hnone ((beginsFolded_cons.mpr hbegins).trans hmatch)
      rw [hlater]

/-- Where no name begins with a shorter one, the marker at the start of a text is that of any name
that matches there. -/
theorem marker?_eq_some_iff_exists {names : List (List Char)} (h : IsPrefixFree names)
    {text marker rest : List Char} :
    marker? names text = some (marker, rest) ↔
      marker ++ rest = text ∧ ∃ name ∈ names, SameFold (',' :: name) marker := by
  constructor
  · exact marker?_eq_some
  · rintro ⟨rfl, name, hname, hfold⟩
    have hbegins : BeginsFolded (',' :: name) (marker ++ rest) := ⟨marker, rest, rfl, hfold⟩
    cases hfound : marker? names (marker ++ rest) with
    | none => exact absurd ⟨name, hname, hbegins⟩ (marker?_eq_none_iff.mp hfound)
    | some found =>
        obtain ⟨first, after⟩ := found
        obtain ⟨happ, other, hother, hfold'⟩ := marker?_eq_some hfound
        have hbegins' : BeginsFolded (',' :: other) (marker ++ rest) := ⟨first, after, happ, hfold'⟩
        -- The name that wins and the given one are of one length.
        have hlength : other.length = name.length :=
          Nat.le_antisymm (h.length_le hother hname hbegins'.tail hbegins.tail)
            (h.length_le hname hother hbegins.tail hbegins'.tail)
        obtain ⟨rfl, rfl⟩ := hfold'.append_inj hfold (congrArg Nat.succ hlength) happ
        rfl

/-- Where no name begins with a shorter one, the names may stand in any order. -/
theorem marker?_eq_of_perm {names others : List (List Char)} (h : IsPrefixFree names)
    (hperm : others.Perm names) (text : List Char) : marker? others text = marker? names text := by
  have hothers : IsPrefixFree others := by
    intro name hname other hother
    exact h name (hperm.mem_iff.mp hname) other (hperm.mem_iff.mp hother)
  apply Option.ext
  rintro ⟨marker, rest⟩
  simp only [marker?_eq_some_iff_exists h, marker?_eq_some_iff_exists hothers, hperm.mem_iff]

namespace MarkerStripper

/-- Strippers that find the same markers delete the same. -/
theorem strip_congr {stripper other : MarkerStripper}
    (h : ∀ text, marker? (stripper.names.map String.toList) text =
      marker? (other.names.map String.toList) text) (text : String) :
    stripper.strip text = other.strip text := by
  have hmarkers : markers (stripper.names.map String.toList) =
      markers (other.names.map String.toList) := by
    rw [markers, markers, Matcher.mk.injEq]
    exact ⟨rfl, funext h⟩
  rw [strip, strip, stripChars_eq, stripChars_eq, hmarkers]

/-- Of a list of names that are not blank, a name that begins with an earlier one may be left out,
and if no name begins with a shorter one, they may stand in any order: the same is deleted from every
text. -/
theorem strip_eq_of_erase_or_perm (names : List String)
    (hnames : ∀ name ∈ names, isBlank name.toList = false) :
    ∃ stripper, ofNames names = .ok stripper ∧
      (∀ before earlier later after, before ++ later :: after = names → earlier ∈ before →
        BeginsFolded earlier.toList later.toList →
        ∃ fewer, ofNames (before ++ after) = .ok fewer ∧
          ∀ text, fewer.strip text = stripper.strip text) ∧
      (IsPrefixFree (names.map String.toList) → ∀ others, others.Perm names →
        ∃ rearranged, ofNames others = .ok rearranged ∧
          ∀ text, rearranged.strip text = stripper.strip text) := by
  refine ⟨.named names hnames, ofNames_eq_ok hnames, ?_, ?_⟩
  · rintro before earlier later after rfl hearlier hbegins
    have hfewer : ∀ name ∈ before ++ after, isBlank name.toList = false := by
      intro name hname
      have hsublist : (before ++ after).Sublist (before ++ later :: after) :=
        (List.sublist_cons_self later after).append_left before
      exact hnames name (hsublist.subset hname)
    refine ⟨.named (before ++ after) hfewer, ofNames_eq_ok hfewer, strip_congr fun text => ?_⟩
    simp only [names_named, List.map_append, List.map_cons]
    exact (marker?_append_cons (List.mem_map_of_mem hearlier) hbegins text).symm
  · intro hfree others hperm
    have hothers : ∀ name ∈ others, isBlank name.toList = false :=
      fun name hname => hnames name (hperm.mem_iff.mp hname)
    refine ⟨.named others hothers, ofNames_eq_ok hothers, strip_congr fun text => ?_⟩
    exact marker?_eq_of_perm hfree (hperm.map String.toList) text

/-- A longer name after its beginning is never deleted as a whole, and two names that are the same up
to case may change places. -/
theorem strip_eq_of_erase_or_perm_must :
    (∃ stripper fewer, ofNames ["no-run", "MUST", "must-fail"] = .ok stripper ∧
      ofNames ["no-run", "MUST"] = .ok fewer ∧
      (∀ text, fewer.strip text = stripper.strip text) ∧
      stripper.strip "rust,must-fail,No-Run" = "rust-fail") ∧
    ∃ stripper rearranged, ofNames ["must-fail", "no-run", "Must-Fail"] = .ok stripper ∧
      ofNames ["no-run", "Must-Fail", "must-fail"] = .ok rearranged ∧
      ∀ text, rearranged.strip text = stripper.strip text := by
  have hshadowed : ∀ name ∈ ["no-run", "MUST", "must-fail"], isBlank name.toList = false := by
    decide
  have hfree : ∀ name ∈ ["must-fail", "no-run", "Must-Fail"], isBlank name.toList = false := by
    decide
  constructor
  · obtain ⟨stripper, hok, herase, -⟩ := strip_eq_of_erase_or_perm _ hshadowed
    have hbegins : BeginsFolded "MUST".toList "must-fail".toList :=
      ⟨"must".toList, "-fail".toList, rfl, by decide +kernel⟩
    obtain ⟨fewer, hfewer, hstrip⟩ :=
      herase ["no-run", "MUST"] "MUST" "must-fail" [] rfl (by simp) hbegins
    refine ⟨stripper, fewer, hok, hfewer, hstrip, ?_⟩
    have hresult : strip (.named ["no-run", "MUST", "must-fail"] (by decide))
        "rust,must-fail,No-Run" = "rust-fail" := by
      decide +kernel
    rw [ofNames_eq_ok hshadowed, Except.ok.injEq] at hok
    rw [← hok]
    exact hresult
  · obtain ⟨stripper, hok, -, hperm⟩ := strip_eq_of_erase_or_perm _ hfree
    have hprefix : IsPrefixFree (["must-fail", "no-run", "Must-Fail"].map String.toList) := by
      decide +kernel
    obtain ⟨rearranged, hrearranged, hstrip⟩ :=
      hperm hprefix ["no-run", "Must-Fail", "must-fail"] (by decide)
    exact ⟨stripper, rearranged, hok, hrearranged, hstrip⟩

end MarkerStripper

end BookFilter
