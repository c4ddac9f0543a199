import BookFilter.Proofs.Delimiters
import BookFilter.Proofs.Pages
import BookFilter.Proofs.Rendering

/-!
# Pages line by line

What a matcher finds at the start of a line does not depend on the lines after it, and it never
reaches over the end of its line. Replacing is therefore done line by line. This holds of version
notes, and of markers whose names have no line feed in them.
-/

namespace BookFilter

namespace Text

/-- A literal without a line feed is found within a line or not at all. -/
theorem splitFolded?_append_line {literal : List Char} (h : '\n' ∉ literal)
    (line rest : List Char) :
    splitFolded? literal (line ++ '\n' :: rest) =
      (splitFolded? literal line).map fun (matched, after) => (matched, after ++ '\n' :: rest) :=
  splitFolded?_append_delimiter foldsAlone_lineFeed h line rest

namespace Matcher

variable {α : Type} {m : Matcher α}

/-- What is found at the start of a line is found there whatever lines come after it. -/
def IsLineLocal (m : Matcher α) : Prop :=
  ∀ line rest, m.at? (line ++ '\n' :: rest) =
    (m.at? line).map fun (a, after) => (a, after ++ '\n' :: rest)

theorem IsLineLocal.replace_append (h : m.IsLineLocal) (f : α → List Char)
    (line rest : List Char) :
    m.replace f (line ++ '\n' :: rest) = m.replace f line ++ '\n' :: m.replace f rest :=
  IsLocalAt.replace_append h f line rest

end Matcher

end Text

open Text

theorem markers_isLineLocal {names : List (List Char)} (h : ∀ name ∈ names, '\n' ∉ name) :
    (markers names).IsLineLocal :=
  markers_isLocalAt foldsAlone_lineFeed (by decide) h

namespace VersionNote

theorem opener?_append_line (line rest : List Char) :
    opener? (line ++ '\n' :: rest) =
      (opener? line).map fun (tag, preposition, separator, after) =>
        (tag, preposition, separator, after ++ '\n' :: rest) := by
  have htag : '\n' ∉ "<sup>".toList := by decide
  have huntil : '\n' ∉ "Until".toList := by decide
  have hsince : '\n' ∉ "Since".toList := by decide
  have hseparator : '\n' ∉ ": ".toList := by decide
  simp only [opener?, splitFolded?_append_line htag]
  cases splitFolded? "<sup>".toList line with
  | none => rfl
  | some tagged =>
      simp only [Option.map_some, Option.bind_eq_bind, Option.bind_some,
        splitFolded?_append_line huntil, splitFolded?_append_line hsince, ← Option.map_or]
      cases (splitFolded? "Until".toList tagged.2).or (splitFolded? "Since".toList tagged.2) with
      | none => rfl
      | some placed =>
          simp only [Option.map_some, Option.bind_some, splitFolded?_append_line hseparator]
          cases splitFolded? ": ".toList placed.2 <;> rfl

theorem version?_append_line (line rest : List Char) :
    version? (line ++ '\n' :: rest) =
      (version? line).map fun (version, closer, after) =>
        (version, closer, after ++ '\n' :: rest) := by
  have hcloser : '\n' ∉ "</sup>".toList := by decide
  induction line with
  | nil =>
      have hnone : splitFolded? "</sup>".toList ('\n' :: rest) = none :=
        splitFolded?_append_line hcloser [] rest
      change version? ('\n' :: rest) = none
      rw [version?, hnone]
      rfl
  | cons c cs ih =>
      have hline := splitFolded?_append_line hcloser (c :: cs) rest
      rw [List.cons_append] at hline ⊢
      rw [version?, version?, hline]
      cases splitFolded? "</sup>".toList (c :: cs) with
      | some pair => rfl
      | none =>
          by_cases hc : c = '\n'
          · simp [hc]
          · simp [hc, ih, Function.comp_def]

end VersionNote

theorem versionNotes_isLineLocal : versionNotes.IsLineLocal := by
  intro line rest
  change VersionNote.at? (line ++ '\n' :: rest) = (VersionNote.at? line).map _
  simp only [VersionNote.at?, VersionNote.opener?_append_line]
  cases VersionNote.opener? line with
  | none => rfl
  | some opened =>
      simp only [Option.map_some, Option.bind_eq_bind, Option.bind_some,
        VersionNote.version?_append_line]
      cases VersionNote.version? opened.2.2.2 <;> rfl

theorem BadgeRenderer.render_append_line (renderer : BadgeRenderer) (a b : String) :
    renderer.render (a ++ "\n" ++ b) = renderer.render a ++ "\n" ++ renderer.render b := by
  rw [← String.toList_inj]
  simp [render, renderChars, versionNotes_isLineLocal.replace_append]

theorem MarkerStripper.strip_append_line {stripper : MarkerStripper}
    (h : ∀ name ∈ stripper.names, '\n' ∉ name.toList) (a b : String) :
    stripper.strip (a ++ "\n" ++ b) = stripper.strip a ++ "\n" ++ stripper.strip b := by
  have hlocal : (markers (stripper.names.map String.toList)).IsLineLocal :=
    markers_isLineLocal (by simpa using h)
  rw [← String.toList_inj]
  simp [strip, stripChars_eq, hlocal.replace_append]

/-- The lines of a text: there is one more of them than there are line feeds. -/
def lines (text : String) : List String :=
  (text.toList.splitOn '\n').map String.ofList

theorem intercalate_lines (text : String) : "\n".intercalate (lines text) = text := by
  rw [← String.toList_inj, String.toList_intercalate, lines, List.map_map]
  simp [Function.comp_def, List.intercalate_splitOn]

/-- A filter that treats the two sides of a line feed apart treats all lines apart. -/
theorem filter_lines {f : String → String} (h : ∀ a b, f (a ++ "\n" ++ b) = f a ++ "\n" ++ f b)
    (text : String) : f text = "\n".intercalate ((lines text).map f) := by
  have hlist : ∀ texts : List String, texts ≠ [] →
      f ("\n".intercalate texts) = "\n".intercalate (texts.map f) := by
    intro texts hne
    induction texts with
    | nil => exact absurd rfl hne
    | cons first others ih =>
        cases others with
        | nil => simp
        | cons second others =>
            have hothers := ih (List.cons_ne_nil _ _)
            rw [String.intercalate_cons_cons, h, hothers]
            simp only [List.map_cons, String.intercalate_cons_cons]
  have hne : lines text ≠ [] := by simp [lines]
  rw [← hlist _ hne, intercalate_lines]

namespace Settings

theorem rewrite_append_line (settings : Settings) (stripper : MarkerStripper)
    (h : ∀ name ∈ stripper.names, '\n' ∉ name.toList) (a b : String) :
    settings.rewrite stripper (a ++ "\n" ++ b) =
      settings.rewrite stripper a ++ "\n" ++ settings.rewrite stripper b := by
  simp only [rewrite, MarkerStripper.strip_append_line h]
  split
  · exact BadgeRenderer.render_append_line _ _ _
  · rfl

/-- Where no name has a line feed in it, the hooks that the settings ask for work line by line. The
contexts do not matter, so no line has a say in what becomes of another. -/
theorem onText_eq_intercalate_lines (settings : Settings)
    (hnames : ∀ name ∈ settings.stripped, isBlank name.toList = false)
    (hlines : ∀ name ∈ settings.stripped, '\n' ∉ name.toList) :
    ∃ preprocessor, settings.preprocessor = .ok preprocessor ∧
      (∀ (a b : String) (context first second : PageContext),
        preprocessor.onText (a ++ "\n" ++ b) context =
          preprocessor.onText a first ++ "\n" ++ preprocessor.onText b second) ∧
      ∀ (page : String) (context other : PageContext),
        preprocessor.onText page context =
          "\n".intercalate ((lines page).map fun line => preprocessor.onText line other) := by
  have hok := MarkerStripper.ofNames_eq_ok hnames
  have hcreated := preprocessor_eq_ok hok
  have hsplit := settings.rewrite_append_line (.named settings.stripped hnames) hlines
  refine ⟨_, hcreated, ?_, ?_⟩
  · intro a b context first second
    simp only [onText_eq_rewrite hok hcreated]
    exact hsplit a b
  · intro page context other
    simp only [onText_eq_rewrite hok hcreated]
    exact filter_lines hsplit page

/-- An opener at the end of a line does not reach the closing tag on the next one. -/
theorem onText_eq_intercalate_lines_unclosed :
    (∀ name ∈ ["must-fail", "a,b"], isBlank name.toList = false) ∧
      (∀ name ∈ ["must-fail", "a,b"], '\n' ∉ name.toList) ∧
      ∃ preprocessor,
        (Settings.mk "https://example.org/" ["must-fail", "a,b"] true).preprocessor =
          .ok preprocessor ∧
        ∀ context,
          preprocessor.onText ("x,must-fail <sup>Since: 1" ++ "\n" ++ "</sup>,A,B") context =
            preprocessor.onText "x,must-fail <sup>Since: 1" context ++ "\n" ++
              preprocessor.onText "</sup>,A,B" context ∧
          preprocessor.onText "x,must-fail <sup>Since: 1" context = "x <sup>Since: 1" ∧
          preprocessor.onText "</sup>,A,B" context = "</sup>" := by
  have hnames : ∀ name ∈ ["must-fail", "a,b"], isBlank name.toList = false := by decide
  have hlines : ∀ name ∈ ["must-fail", "a,b"], '\n' ∉ name.toList := by decide
  obtain ⟨preprocessor, hok, hsplit, -⟩ :=
    onText_eq_intercalate_lines ⟨"https://example.org/", ["must-fail", "a,b"], true⟩ hnames hlines
  have hfirst : Settings.rewrite ⟨"https://example.org/", ["must-fail", "a,b"], true⟩
      (.named ["must-fail", "a,b"] (by decide)) "x,must-fail <sup>Since: 1" =
        "x <sup>Since: 1" := by
    decide +kernel
  have hsecond : Settings.rewrite ⟨"https://example.org/", ["must-fail", "a,b"], true⟩
      (.named ["must-fail", "a,b"] (by decide)) "</sup>,A,B" = "</sup>" := by
    decide +kernel
  have htext := onText_eq_rewrite (MarkerStripper.ofNames_eq_ok hnames) hok
  exact ⟨hnames, hlines, preprocessor, hok, fun context => ⟨hsplit _ _ context context context,
    (htext _ context).trans hfirst, (htext _ context).trans hsecond⟩⟩

end Settings

end BookFilter
