import BookFilter.Preprocessor
import BookFilter.Proofs.Walks

/-!
# The calls of hooks

Over a book the hooks are called chapter by chapter, from the inside out, and over each chapter once
each, in order. A hook is handed the text that the one before it returned, which is also the content
of the page it is told of, along with the configuration and the source files of the book as it was
at the start.
-/

namespace BookFilter

/-- The calls are those of the hooks over a page: each hook is called once, on the text that the
hook before it returned, and told of the page with that text as its content. -/
structure IsRunOver (hooks : List PageHook) (config : BookConfig) (files : List String)
    (page : Chapter) (calls : List Call) : Prop where
  hook_called : List.Forall₂ (fun hook call => call.hook = hook.name ∧
    call.result = hook.onPage call.text call.context) hooks calls
  first_text : ∀ call ∈ calls.head?, call.text = page.content
  next_text : calls.IsChain fun call next => next.text = call.result
  context_eq : ∀ call ∈ calls, call.context = ⟨page.withContent call.text, config, files⟩

/-- What the last of the calls over a page returned, or the content of a page that no hook was
called on. -/
def lastText (page : Chapter) (calls : List Call) : String :=
  ((calls.map Call.result).getLast?).getD page.content

theorem lastText_cons (page : Chapter) (call : Call) (calls : List Call) :
    lastText page (call :: calls) = lastText (page.withContent call.result) calls := by
  rw [lastText, lastText, List.map_cons, List.getLast?_cons, Option.getD_some]
  rfl

/-- A call in front of a run over the page that the call leaves behind. -/
theorem IsRunOver.cons {hook : PageHook} {hooks : List PageHook} {config : BookConfig}
    {files : List String} {page : Chapter} {result : String} {event? : Option Event}
    {calls : List Call} (hresult : result = hook.onPage page.content ⟨page, config, files⟩)
    (h : IsRunOver hooks config files (page.withContent result) calls) :
    IsRunOver (hook :: hooks) config files page
      (⟨hook.name, page.content, ⟨page, config, files⟩, result, event?⟩ :: calls) where
  hook_called := .cons ⟨rfl, hresult⟩ h.hook_called
  first_text call hcall := by
    cases hcall
    rfl
  next_text := by
    cases calls with
    | nil => exact .singleton _
    | cons next calls => exact .cons_cons (h.first_text next rfl) h.next_text
  context_eq call hcall := by
    rcases List.mem_cons.mp hcall with rfl | hcall
    · rw [page.withContent_content]
    · exact h.context_eq call hcall

namespace Preprocessor

/-- Over a chapter the hooks are called once each, in order, and the chapter is left with the text
that the last one returned. -/
theorem onChapter_spec (hooks : List PageHook) (config : BookConfig) (files : List String)
    (page : Chapter) :
    IsRunOver hooks config files page (onChapter config files hooks page).2 ∧
      (onChapter config files hooks page).1 =
        page.withContent (lastText page (onChapter config files hooks page).2) := by
  induction hooks generalizing page with
  | nil =>
      refine ⟨⟨.nil, ?_, .nil, ?_⟩, page.withContent_content.symm⟩
      · rintro call ⟨⟩
      · rintro call ⟨⟩
  | cons hook hooks ih =>
      obtain ⟨hrun, hpage⟩ := ih (page.withContent (hook.onPage page.content ⟨page, config, files⟩))
      rw [onChapter_cons config files hook hooks page rfl]
      refine ⟨hrun.cons rfl, ?_⟩
      rw [hpage, lastText_cons]
      rfl

theorem onChapter_subItems (hooks : List PageHook) (config : BookConfig) (files : List String)
    (page : Chapter) :
    (onChapter config files hooks page).1.subItems = page.subItems := by
  rw [(onChapter_spec hooks config files page).2]
  rfl

theorem visit_logs (preprocessor : Preprocessor) (config : BookConfig) (files : List String) :
    (preprocessor.visit config files).Logs
      (fun page => (onChapter config files preprocessor.hooks page).1)
      (fun page => (onChapter config files preprocessor.hooks page).2) :=
  fun _ _ => rfl

/-- What the hooks make of a chapter whose sub-items have had their turn. -/
def change (preprocessor : Preprocessor) (config : BookConfig) (book : Book) (page : Chapter) :
    Chapter :=
  (onChapter config book.sourcePaths preprocessor.hooks page).1

/-- The calls of the hooks over a chapter whose sub-items have had their turn. -/
def callsOn (preprocessor : Preprocessor) (config : BookConfig) (book : Book) (page : Chapter) :
    List Call :=
  (onChapter config book.sourcePaths preprocessor.hooks page).2

/-- Processing a book changes every chapter and makes the calls over it, from the inside out. -/
theorem process_eq (preprocessor : Preprocessor) (config : BookConfig) (book : Book) :
    preprocessor.process config book =
      (book.mapInsideOut (preprocessor.change config book),
        logAt (preprocessor.change config book) (preprocessor.callsOn config book)
          (book.places .insideOut)) := by
  rw [process, Book.walk_of_logs (preprocessor.visit_logs config book.sourcePaths)]
  rfl

theorem chapterAt?_process (preprocessor : Preprocessor) (config : BookConfig) (book : Book)
    (position : Position) :
    (preprocessor.process config book).1.chapterAt? position =
      (book.chapterAt? position).map
        (Chapter.mapInsideOut (preprocessor.change config book)) := by
  rw [process_eq]
  apply Book.chapterAt?_mapInsideOut
  intro page
  exact onChapter_subItems _ _ _ page

/-- The calls over a book by the position of the chapter, from the inside out. -/
def runs (preprocessor : Preprocessor) (config : BookConfig) (book : Book) :
    List (Position × List Call) :=
  (book.places .insideOut).map fun (position, page) =>
    (position, preprocessor.callsOn config book (page.inTurn (preprocessor.change config book)))

theorem map_fst_runs (preprocessor : Preprocessor) (config : BookConfig) (book : Book) :
    (preprocessor.runs config book).map Prod.fst = (book.places .insideOut).map Prod.fst := by
  simp [runs, Function.comp_def]

theorem flatMap_snd_runs (preprocessor : Preprocessor) (config : BookConfig) (book : Book) :
    (preprocessor.runs config book).flatMap Prod.snd = (preprocessor.process config book).2 := by
  rw [process_eq, logAt, runs, List.flatMap_map]

theorem subItems_mapInsideOut_change (preprocessor : Preprocessor) (config : BookConfig)
    (book : Book) (page : Chapter) :
    page.withSubItems (page.mapInsideOut (preprocessor.change config book)).subItems =
      page.inTurn (preprocessor.change config book) := by
  rw [Chapter.mapInsideOut_eq]
  exact congrArg page.withSubItems (onChapter_subItems _ _ _ _)

/-- The calls at a position are a run over the chapter there as it was, but for its sub-items, which
have been processed by then. The chapter is left with the text that the run ends with. -/
theorem run_of_mem_runs {preprocessor : Preprocessor} {config : BookConfig} {book : Book}
    {position : Position} {calls : List Call}
    (h : (position, calls) ∈ preprocessor.runs config book) :
    ∃ page done, book.chapterAt? position = some page ∧
      (preprocessor.process config book).1.chapterAt? position = some done ∧
      done = (page.withSubItems done.subItems).withContent (lastText page calls) ∧
      IsRunOver preprocessor.hooks config book.sourcePaths (page.withSubItems done.subItems)
        calls := by
  obtain ⟨⟨place, page⟩, hplace, heq⟩ := List.mem_map.mp h
  obtain ⟨rfl, rfl⟩ := Prod.mk.inj heq
  have hpage := book.mem_places_iff.mp hplace
  obtain ⟨hrun, hdone⟩ := onChapter_spec preprocessor.hooks config book.sourcePaths
    (page.inTurn (preprocessor.change config book))
  refine ⟨page, page.mapInsideOut (preprocessor.change config book), hpage, ?_, ?_, ?_⟩
  · rw [chapterAt?_process, hpage]
    rfl
  · rw [subItems_mapInsideOut_change, Chapter.mapInsideOut_eq]
    exact hdone
  · rw [subItems_mapInsideOut_change]
    exact hrun

/-- The calls over a book are runs over its chapters, one for each position and no more, from the
inside out. Every run is over the chapter as it was, but for its sub-items, which have been
processed, and every call is told the source files of the book as it was, in reading order. -/
theorem process_calls_eq_runs (preprocessor : Preprocessor) (config : BookConfig) (book : Book) :
    ∃ (reading : List Position) (runs : List (Position × List Call)),
      book.IsEnumeration .outsideIn reading ∧
      book.IsEnumeration .insideOut (runs.map Prod.fst) ∧ (runs.map Prod.fst).Nodup ∧
      (preprocessor.process config book).2 = runs.flatMap Prod.snd ∧
      ∀ position calls, (position, calls) ∈ runs → ∃ page done,
        book.chapterAt? position = some page ∧
        (preprocessor.process config book).1.chapterAt? position = some done ∧
        done = (page.withSubItems done.subItems).withContent (lastText page calls) ∧
        IsRunOver preprocessor.hooks config
          (reading.filterMap fun place => (book.chapterAt? place).bind Chapter.sourcePath)
          (page.withSubItems done.subItems) calls := by
  have hplaces := book.isEnumeration_places .insideOut
  rw [← preprocessor.map_fst_runs config book] at hplaces
  refine ⟨(book.places .outsideIn).map Prod.fst, preprocessor.runs config book,
    book.isEnumeration_places .outsideIn, hplaces, hplaces.nodup,
    (preprocessor.flatMap_snd_runs config book).symm, ?_⟩
  intro position calls hmem
  rw [← book.sourcePaths_eq_filterMap]
  exact run_of_mem_runs hmem

end Preprocessor

end BookFilter
