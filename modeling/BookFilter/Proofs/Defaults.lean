import BookFilter.Proofs.Influence

/-!
# Where nothing is told

A configuration that tells the preprocessor nothing, or what is used anyway, gives the hooks of the
default preprocessor. Of the two ways to recognise a `must-fail` marker, one is a literal and the
other goes through a list of names; they find the same. Slashes after the address of a repository
make no difference.
-/

namespace BookFilter

open Text

namespace MarkerStripper

/-- The list with the one name deletes the same as the literal. -/
theorem strip_eq_stripMustFail {stripper : MarkerStripper} (h : stripper.names = [defaultName])
    (text : String) : stripper.strip text = stripMustFail text := by
  rw [strip, stripChars_eq, h, List.map_singleton, markers_mustFail]
  rfl

/-- With the one name the hook is that of the default stripper. -/
theorem hook_eq_default {stripper : MarkerStripper} (h : stripper.names = [defaultName]) :
    stripper.hook = default.hook := by
  rw [hook, hook, funext (strip_eq_stripMustFail h)]
  rfl

end MarkerStripper

namespace BadgeRenderer

theorem withoutSlashes_append_replicate (address : List Char) (count : Nat) :
    withoutSlashes (address ++ List.replicate count '/') = withoutSlashes address := by
  rw [withoutSlashes, withoutSlashes, List.reverse_append, List.reverse_replicate,
    List.dropWhile_append_of_pos]
  intro c hc
  simp [List.eq_of_mem_replicate hc]

/-- Slashes at the end of an address make no difference. -/
theorem ofRepository_append_slashes (address : String) (count : Nat) :
    ofRepository (address ++ String.ofList (List.replicate count '/')) = ofRepository address := by
  rw [ofRepository, ofRepository, String.toList_append, String.toList_ofList,
    withoutSlashes_append_replicate]

end BadgeRenderer

namespace Settings

/-- A configuration tells the preprocessor nothing, or what is used anyway. -/
def TellsNothing (config : BookConfig) : Prop :=
  given? config = none ∨ given? config = some (.table []) ∨ given? config = some (.array []) ∨
    ofConfig config = .ok default

theorem ofConfig_of_tellsNothing {config : BookConfig} (h : TellsNothing config) :
    ofConfig config = .ok default := by
  obtain h | h | h | h := h
  · rw [ofConfig, h]
    rfl
  · rw [ofConfig, h]
    rfl
  · rw [ofConfig, h]
    rfl
  · exact h

theorem default_preprocessor : default.preprocessor = .ok Preprocessor.default := by
  have hnames : ∀ name ∈ default.stripped, isBlank name.toList = false := by decide
  rw [preprocessor_eq_ok (MarkerStripper.ofNames_eq_ok hnames),
    MarkerStripper.hook_eq_default (MarkerStripper.names_named _ hnames)]
  rfl

end Settings

namespace Preprocessor

/-- Where nothing is told, a run over a book reports the two hooks and then goes over the book as
the default preprocessor does, for whatever configuration that one is given. Its stripper deletes
the same as the literal and as the list with the one name, and its renderer is the same with any
number of slashes after the address of the repository. -/
theorem run_eq_process_default (own : Preprocessor) (config other : BookConfig) (book : Book)
    (h : Settings.TellsNothing config) :
    own.run config book =
        ⟨.created ["strip-annotations", "version-badges"] ::
            Call.events (default.process other book).2,
          .ok (default.process other book).1⟩ ∧
      default =
        ⟨[⟨"strip-annotations", fun text _ => stripMustFail text⟩, BadgeRenderer.default.hook]⟩ ∧
      (∃ stripper, MarkerStripper.ofNames ["must-fail"] = .ok stripper ∧ ∀ text,
        stripper.strip text = stripMustFail text ∧
          MarkerStripper.default.strip text = stripMustFail text) ∧
      ∀ count text, (BadgeRenderer.ofRepository (BadgeRenderer.defaultRepository ++
          String.ofList (List.replicate count '/'))).render text =
        BadgeRenderer.default.render text := by
  refine ⟨?_, rfl, ⟨.named ["must-fail"] (by decide), ?_, ?_⟩, ?_⟩
  · have hsettings := Settings.ofConfig_of_tellsNothing h
    have hprocess := Settings.processBook_eq Settings.default_preprocessor config other book
    calc own.run config book
        = ⟨.created default.hookNames :: (default.processBook config book).events,
            (default.processBook config book).result⟩ :=
          run_of_ok hsettings Settings.default_preprocessor book
      _ = _ := by
          rw [hprocess]
          rfl
  · exact MarkerStripper.ofNames_eq_ok (by decide)
  · intro text
    exact ⟨MarkerStripper.strip_eq_stripMustFail rfl text, rfl⟩
  · intro count text
    rw [BadgeRenderer.ofRepository_append_slashes]
    rfl

end Preprocessor

/-- A configuration that tells what is used anyway. -/
def BookConfig.explicit : BookConfig :=
  ⟨none, .table [("preprocessor", .table [("niri-docs", .table [
    ("strip-annotations", .array [.string "must-fail"]), ("version-badges", .boolean true)])])]⟩

/-- The hooks of the run are those of the default preprocessor, not its own ones. -/
theorem Preprocessor.run_eq_process_default_explicit :
    Settings.TellsNothing .explicit ∧
      (Preprocessor.mk []).run .explicit Book.broken =
        ⟨[.created ["strip-annotations", "version-badges"], .changed "Moves" "version-badges",
            .changed "Keys" "strip-annotations", .changed "Keys" "version-badges"],
          .ok (default.process .empty Book.broken).1⟩ := by
  have htells : Settings.TellsNothing .explicit := .inr (.inr (.inr rfl))
  obtain ⟨hrun, -⟩ := run_eq_process_default ⟨[]⟩ .explicit .empty Book.broken htells
  have hevents : Call.events (default.process .empty Book.broken).2 =
      [.changed "Moves" "version-badges", .changed "Keys" "strip-annotations",
        .changed "Keys" "version-badges"] := by
    decide +kernel
  rw [hevents] at hrun
  exact ⟨htells, hrun⟩

end BookFilter
