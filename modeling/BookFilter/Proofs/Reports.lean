import BookFilter.Proofs.Calls
import BookFilter.Proofs.Occurrences
import BookFilter.Proofs.Pages
import BookFilter.Proofs.Stages

/-!
# What a run reports

A run with accepted settings reports the hooks that it sets up, and then every change of a chapter,
from the inside out. A chapter is reported for the stripper exactly if there is a marker in it, and
for the renderer exactly if there is a version note in what the stripper leaves.
-/

namespace BookFilter

open Text (isBlank)

/-- What comes from the places of a book comes from their positions. -/
theorem Book.flatMap_places {α : Type} (book : Book) (traversal : Traversal)
    (f : Chapter → List α) :
    ((book.places traversal).flatMap fun (_, page) => f page) =
      ((book.places traversal).map Prod.fst).flatMap fun position =>
        ((book.chapterAt? position).map f).getD [] := by
  rw [List.flatMap_map]
  apply List.flatMap_congr
  rintro ⟨position, page⟩ hmem
  rw [book.mem_places_iff.mp hmem]
  rfl

namespace Preprocessor

theorem events_process (preprocessor : Preprocessor) (config : BookConfig) (book : Book) :
    Call.events (preprocessor.process config book).2 =
      (book.places .insideOut).flatMap fun (_, page) =>
        Call.events (preprocessor.callsOn config book
          (page.inTurn (preprocessor.change config book))) := by
  rw [process_eq, logAt, Call.events, List.filterMap_flatMap]
  rfl

/-- Over a chapter the first hook is reported if it changes the content, and the others have their
turn with what it leaves. -/
theorem events_onChapter_cons (hook : PageHook) (hooks : List PageHook) (config : BookConfig)
    (files : List String) (page : Chapter) {text : String}
    (htext : hook.onPage page.content ⟨page, config, files⟩ = text) :
    Call.events (onChapter config files (hook :: hooks) page).2 =
      (if text = page.content then [] else [.changed page.name hook.name]) ++
        Call.events (onChapter config files hooks (page.withContent text)).2 := by
  rw [onChapter_cons config files hook hooks page htext, Call.events, List.filterMap_cons,
    takeResult_snd]
  by_cases hsame : text = page.content
  · simp only [if_pos hsame, List.nil_append, Call.events]
  · simp only [if_neg hsame, List.singleton_append, Call.events]

end Preprocessor

namespace Settings

/-- What the hooks that the settings ask for change of a chapter: a marker in the content is
deleted, and if badges are wanted, a version note in what is left becomes a badge. -/
def changesTo (settings : Settings) (stripper : MarkerStripper) (page : Chapter) : List Event :=
  (if HasMarker stripper.names page.content then [.changed page.name "strip-annotations"]
    else []) ++
  (if settings.badges = true ∧ HasNote (stripper.strip page.content) then
      [.changed page.name "version-badges"]
    else [])

variable {settings : Settings} {stripper : MarkerStripper} {preprocessor : Preprocessor}

theorem hookNames_of_preprocessor (hnames : MarkerStripper.ofNames settings.stripped = .ok stripper)
    (h : settings.preprocessor = .ok preprocessor) :
    preprocessor.hookNames =
      "strip-annotations" :: if settings.badges then ["version-badges"] else [] := by
  rw [preprocessor_eq_ok hnames] at h
  cases h
  cases settings.badges <;> rfl

/-- The hooks that the settings ask for report a chapter for what there is to be found in it. -/
theorem events_callsOn (hnames : MarkerStripper.ofNames settings.stripped = .ok stripper)
    (h : settings.preprocessor = .ok preprocessor) (config : BookConfig) (book : Book)
    (page : Chapter) :
    Call.events (preprocessor.callsOn config book page) = settings.changesTo stripper page := by
  rw [preprocessor_eq_ok hnames] at h
  cases h
  have hstrip : stripper.hook.onPage page.content ⟨page, config, book.sourcePaths⟩ =
      stripper.strip page.content := rfl
  rw [Preprocessor.callsOn, Preprocessor.events_onChapter_cons _ _ _ _ _ hstrip, changesTo]
  simp only [stripper.strip_eq_self_iff, ite_not]
  congr 1
  cases settings.badges with
  | false => rfl
  | true =>
      let left := page.withContent (stripper.strip page.content)
      let renderer := BadgeRenderer.ofRepository settings.repository
      have hrender : renderer.hook.onPage left.content ⟨left, config, book.sourcePaths⟩ =
          renderer.render left.content := rfl
      rw [if_pos rfl, Preprocessor.events_onChapter_cons _ _ _ _ _ hrender]
      simp only [renderer.render_eq_self_iff, ite_not, true_and]
      exact List.append_nil _

/-- Over a book the hooks that the settings ask for report every chapter, from the inside out, for
what there is to be found in it. -/
theorem events_process (hnames : MarkerStripper.ofNames settings.stripped = .ok stripper)
    (h : settings.preprocessor = .ok preprocessor) (config : BookConfig) (book : Book) :
    Call.events (preprocessor.process config book).2 =
      (book.places .insideOut).flatMap fun (_, page) => settings.changesTo stripper page := by
  rw [Preprocessor.events_process]
  apply List.flatMap_congr
  rintro ⟨position, page⟩ -
  exact events_callsOn hnames h config book _

end Settings

namespace Preprocessor

/-- A run with accepted settings reports its hooks, and then, for every chapter from the inside out,
the stripper if there is a marker in the content, and the renderer if badges are wanted and there is
a version note in the stripped content. These are the texts that stripping and rendering change, and
the book that comes with the events is the one in which each content is changed in this way. -/
theorem events_run_eq_changes (own : Preprocessor) (config : BookConfig) (book : Book)
    (settings : Settings) (hsettings : Settings.ofConfig config = .ok settings)
    (hnames : ∀ name ∈ settings.stripped, isBlank name.toList = false) :
    (∃ positions, book.IsEnumeration .insideOut positions ∧
      (own.run config book).events =
        .created ("strip-annotations" :: if settings.badges then ["version-badges"] else []) ::
          positions.flatMap fun position =>
            ((book.chapterAt? position).map
              (settings.changesTo (.named settings.stripped hnames))).getD []) ∧
    (own.run config book).result =
      .ok (book.mapContent (settings.rewrite (.named settings.stripped hnames))) ∧
    (∀ (stripper : MarkerStripper) (text : String),
      stripper.strip text = text ↔ ¬ HasMarker stripper.names text) ∧
    ∀ (renderer : BadgeRenderer) (text : String), renderer.render text = text ↔ ¬ HasNote text := by
  have hok := MarkerStripper.ofNames_eq_ok hnames
  have hcreated := Settings.preprocessor_eq_ok hok
  refine ⟨⟨(book.places .insideOut).map Prod.fst, book.isEnumeration_places .insideOut, ?_⟩, ?_,
    MarkerStripper.strip_eq_self_iff, BadgeRenderer.render_eq_self_iff⟩
  · rw [run_of_ok hsettings hcreated, Settings.hookNames_of_preprocessor hok hcreated,
      Settings.events_process hok hcreated, book.flatMap_places]
  · rw [run_of_ok hsettings hcreated, Settings.process_eq_rewrite hnames hcreated]

end Preprocessor

/-- A book with a version note that is there only once the marker in it is gone. -/
def Book.broken : Book :=
  ⟨[.chapter ⟨"Keys", "<sup>Since: 1</su,Must-Failp>", none,
    [.separator, .chapter ⟨"Moves", "<sup>Until: 2</sup>", none, [], none, none, ["Keys"]⟩],
    none, some "keys.md", []⟩, .chapter ⟨"End", "must-fail", none, [], none, none, []⟩]⟩

namespace Preprocessor

/-- Both hooks are reported for the outer chapter, the renderer only for the inner one before it, and
neither for the last one; the book has the two badges and is otherwise as it was. -/
theorem events_run_eq_changes_broken :
    Settings.ofConfig .empty = .ok .default ∧
      (∀ name ∈ Settings.default.stripped, isBlank name.toList = false) ∧
      (∃ positions, Book.broken.IsEnumeration .insideOut positions ∧
        ((Preprocessor.mk []).run .empty Book.broken).events =
          .created ["strip-annotations", "version-badges"] ::
            positions.flatMap fun position =>
              ((Book.broken.chapterAt? position).map
                (Settings.default.changesTo (.named ["must-fail"] (by decide)))).getD []) ∧
      ((Preprocessor.mk []).run .empty Book.broken).events = [
        .created ["strip-annotations", "version-badges"],
        .changed "Moves" "version-badges",
        .changed "Keys" "strip-annotations",
        .changed "Keys" "version-badges"] ∧
      ((Preprocessor.mk []).run .empty Book.broken).result = .ok ⟨[.chapter ⟨"Keys",
        "<span class=\"badge\">[Since: 1](https://github.com/YaLTeR/niri/releases/tag/v1)</span>",
        none, [.separator, .chapter ⟨"Moves",
          "<span class=\"badge\">[Until: 2](https://github.com/YaLTeR/niri/releases/tag/v2)</span>",
          none, [], none, none, ["Keys"]⟩], none, some "keys.md", []⟩,
        .chapter ⟨"End", "must-fail", none, [], none, none, []⟩]⟩ := by
  have hsettings : Settings.ofConfig .empty = .ok .default := rfl
  have hnames : ∀ name ∈ Settings.default.stripped, isBlank name.toList = false := by decide
  obtain ⟨hevents, hbook, -⟩ :=
    events_run_eq_changes ⟨[]⟩ .empty Book.broken .default hsettings hnames
  let rewrite := Settings.default.rewrite (.named ["must-fail"] (by decide))
  have hkeys : rewrite "<sup>Since: 1</su,Must-Failp>" =
      "<span class=\"badge\">[Since: 1](https://github.com/YaLTeR/niri/releases/tag/v1)</span>" := by
    decide +kernel
  have hmoves : rewrite "<sup>Until: 2</sup>" =
      "<span class=\"badge\">[Until: 2](https://github.com/YaLTeR/niri/releases/tag/v2)</span>" := by
    decide +kernel
  have hlast : rewrite "must-fail" = "must-fail" := by
    decide +kernel
  refine ⟨hsettings, hnames, hevents, by decide +kernel, hbook.trans ?_⟩
  change Except.ok (Book.mk [.chapter ⟨"Keys", rewrite "<sup>Since: 1</su,Must-Failp>", none,
    [.separator, .chapter ⟨"Moves", rewrite "<sup>Until: 2</sup>", none, [], none, none, ["Keys"]⟩],
    none, some "keys.md", []⟩, .chapter ⟨"End", rewrite "must-fail", none, [], none, none, []⟩]) = _
  rw [hkeys, hmoves, hlast]

end Preprocessor

end BookFilter
