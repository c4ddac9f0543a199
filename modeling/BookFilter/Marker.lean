import BookFilter.Text.Blank
import BookFilter.Text.Folding
import BookFilter.Text.Pieces

/-! # Code fence markers

A marker is a comma and a name, as in a code fence that begins with `rust,must-fail`. A stripper
deletes the markers of its names, wherever they stand and in any case. -/

namespace BookFilter

open Text

/-- The first of the names, in list order, that follows a comma at the start of the text. The
marker is as written. -/
def marker? (names : List (List Char)) : List Char → Option (List Char × List Char)
  | ',' :: text =>
      names.findSome? fun name =>
        (splitFolded? name text).map fun (matched, rest) => (',' :: matched, rest)
  | _ => none

theorem marker?_eq_some {names : List (List Char)} {text marker rest : List Char}
    (h : marker? names text = some (marker, rest)) :
    marker ++ rest = text ∧ ∃ name ∈ names, SameFold (',' :: name) marker := by
  unfold marker? at h
  split at h
  · next t =>
      obtain ⟨name, hn, hm⟩ := List.exists_of_findSome?_eq_some h
      simp only [Option.map_eq_some_iff, Prod.exists, Prod.mk.injEq] at hm
      obtain ⟨m, r, hs, rfl, rfl⟩ := hm
      obtain ⟨happ, hfold⟩ := splitFolded?_eq_some_iff.1 hs
      refine ⟨by simp [happ], name, hn, ?_⟩
      simpa [SameFold] using hfold
  · cases h

/-- Recognises the markers of the names. -/
def markers (names : List (List Char)) : Matcher (List Char) where
  source := id
  at? := marker? names
  source_append h := (marker?_eq_some h).1
  source_ne_nil h := by
    obtain ⟨-, name, -, hfold⟩ := marker?_eq_some h
    intro hnil
    simp only [id] at hnil
    simp [SameFold, hnil] at hfold

/-- Recognises the `must-fail` marker as one literal. -/
def mustFailMarkers : Matcher (List Char) where
  source := id
  at? := splitFolded? ",must-fail".toList
  source_append := splitFolded?_append
  source_ne_nil h hnil := by
    have hlen := splitFolded?_length h
    simp only [id] at hnil
    simp [hnil] at hlen

/-- What deletes markers: those of `must-fail`, which are recognised as a literal, or those of the
names in a list. None of the names is blank, so that a comma on its own is no marker. -/
inductive MarkerStripper where
  | mustFail
  | named (names : List String) (not_blank : ∀ name ∈ names, isBlank name.toList = false)

/-- The refusal of a list of names: the number of the first blank one, counted from 1. -/
structure BlankName where
  number : Nat
deriving DecidableEq, Repr

/-- The wording of the refusal. -/
def BlankName.message (refusal : BlankName) : String :=
  s!"Annotation #{refusal.number} is empty"

namespace MarkerStripper

/-- A stripper for the names, unless one of them is blank. -/
def ofNames (names : List String) : Except BlankName MarkerStripper :=
  match h : names.findIdx? fun name => isBlank name.toList with
  | some i => .error ⟨i + 1⟩
  | none => .ok (.named names (by simpa using h))

/-- The name of the marker that is deleted unless other names are given. -/
def defaultName : String := "must-fail"

/-- The stripper of `must-fail` markers. -/
def default : MarkerStripper := mustFail

/-- The names whose markers are deleted. -/
def names : MarkerStripper → List String
  | mustFail => [defaultName]
  | named names _ => names

@[simp]
theorem names_named (names : List String) (h : ∀ name ∈ names, isBlank name.toList = false) :
    (named names h).names = names :=
  rfl

/-- What recognises the markers. -/
def matcher : MarkerStripper → Matcher (List Char)
  | mustFail => mustFailMarkers
  | named names _ => markers (names.map String.toList)

/-- The characters of a text that are in no marker. -/
def stripChars (stripper : MarkerStripper) (text : List Char) : List Char :=
  stripper.matcher.replace (fun _ => []) text

/-- Deletes the markers from a text. -/
def strip (stripper : MarkerStripper) (text : String) : String :=
  String.ofList (stripper.stripChars text.toList)

end MarkerStripper

/-- Deletes the `must-fail` markers from a text. -/
def stripMustFail (text : String) : String :=
  String.ofList (mustFailMarkers.replace (fun _ => []) text.toList)

end BookFilter
