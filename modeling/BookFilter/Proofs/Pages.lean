import BookFilter.Config.Settings
import BookFilter.Proofs.Stripping

/-!
# What hooks make of the pages of a book

Hooks that look at the text only rewrite each chapter as they rewrite its text on its own, and a run
over a book changes nothing but contents. The hooks that settings ask for are of this kind: markers
go first, then version notes become badges.
-/

namespace BookFilter

open Text (isBlank)

/-- The hook looks at nothing but the text. -/
def PageHook.IsTextOnly (hook : PageHook) : Prop :=
  ∀ text context other, hook.onPage text context = hook.onPage text other

mutual

/-- An item with a filter applied to the content of every chapter in it. -/
def Item.mapContent (f : String → String) : Item → Item
  | .chapter page => .chapter (page.mapContent f)
  | .separator => .separator
  | .partTitle title => .partTitle title

/-- A chapter with a filter applied to its content and to those of all chapters in it. -/
def Chapter.mapContent (f : String → String) : Chapter → Chapter
  | ⟨name, content, number, subItems, path, sourcePath, parentNames⟩ =>
      ⟨name, f content, number, mapContents f subItems, path, sourcePath, parentNames⟩

/-- Items with a filter applied to the content of every chapter in them. -/
def mapContents (f : String → String) : List Item → List Item
  | [] => []
  | item :: items => item.mapContent f :: mapContents f items

end

/-- A book with a filter applied to the content of every chapter. -/
def Book.mapContent (f : String → String) (book : Book) : Book :=
  ⟨mapContents f book.sections⟩

mutual

theorem Item.mapContent_id : ∀ item : Item, item.mapContent id = item
  | .chapter page => congrArg Item.chapter page.mapContent_id
  | .separator => rfl
  | .partTitle _ => rfl

theorem Chapter.mapContent_id : ∀ chapter : Chapter, chapter.mapContent id = chapter
  | ⟨name, content, number, subItems, path, sourcePath, parentNames⟩ => by
      rw [Chapter.mapContent, mapContents_id]
      rfl

theorem mapContents_id : ∀ items : List Item, mapContents id items = items
  | [] => rfl
  | item :: items => by rw [mapContents, item.mapContent_id, mapContents_id]

end

theorem Book.mapContent_id (book : Book) : book.mapContent id = book := by
  rw [Book.mapContent, mapContents_id]

section Walk

variable {σ ε : Type}

/-- The visit filters the content of a chapter and does not fail. -/
def Visit.Filters (visit : Visit σ ε) (f : String → String) : Prop :=
  ∀ chapter state, (visit chapter state).value = chapter.withContent (f chapter.content) ∧
    (visit chapter state).failure = none

variable {visit : Visit σ ε} {f : String → String}

mutual

/-- A walk whose visits filter contents filters the contents of the whole tree. -/
theorem Item.walk_eq_mapContent (h : visit.Filters f) (item : Item)
    (state : σ) :
    (item.walk visit state).value = item.mapContent f ∧
      (item.walk visit state).failure = none := by
  match item with
  | .chapter page =>
      have hpage := Chapter.walk_eq_mapContent h page state
      exact ⟨congrArg Item.chapter hpage.1, hpage.2⟩
  | .separator => exact ⟨rfl, rfl⟩
  | .partTitle _ => exact ⟨rfl, rfl⟩

theorem Chapter.walk_eq_mapContent (h : visit.Filters f) (chapter : Chapter)
    (state : σ) :
    (chapter.walk visit state).value = chapter.mapContent f ∧
      (chapter.walk visit state).failure = none := by
  match chapter with
  | ⟨name, content, number, subItems, path, sourcePath, parentNames⟩ =>
      have hitems := walkItems_eq_mapContents h subItems state
      rw [Chapter.walk, hitems.2]
      refine ⟨?_, (h _ _).2⟩
      rw [(h _ _).1, hitems.1]
      rfl

theorem walkItems_eq_mapContents (h : visit.Filters f) (items : List Item)
    (state : σ) :
    (walkItems visit items state).value = mapContents f items ∧
      (walkItems visit items state).failure = none := by
  match items with
  | [] => exact ⟨rfl, rfl⟩
  | item :: items =>
      have hitem := Item.walk_eq_mapContent h item state
      have hitems := walkItems_eq_mapContents h items (item.walk visit state).state
      rw [walkItems, hitem.2]
      exact ⟨by rw [mapContents, ← hitem.1, ← hitems.1], hitems.2⟩

end

theorem Book.walk_eq_mapContent (h : visit.Filters f) (book : Book) (state : σ) :
    (book.walk visit state).value = book.mapContent f :=
  congrArg Book.mk (walkItems_eq_mapContents h book.sections state).1

end Walk

namespace Preprocessor

/-- Over a chapter, hooks that look at the text only do what they do to its content on its own. -/
theorem onChapter_eq_onText {hooks : List PageHook} (h : ∀ hook ∈ hooks, hook.IsTextOnly)
    (config : BookConfig) (files : List String) (chapter : Chapter) (context : PageContext) :
    (onChapter config files hooks chapter).1 =
      chapter.withContent (onText ⟨hooks⟩ chapter.content context) := by
  induction hooks generalizing chapter with
  | nil =>
      cases chapter
      rfl
  | cons hook hooks ih =>
      have hhook := h hook (List.mem_cons_self ..)
      have hhooks := ih fun other hother => h other (List.mem_cons_of_mem _ hother)
      rw [onChapter_cons config files hook hooks chapter (hhook chapter.content _ context), hhooks]
      rfl

/-- Over a book, hooks that look at the text only filter the content of every chapter. -/
theorem process_eq_mapContent {preprocessor : Preprocessor}
    (h : ∀ hook ∈ preprocessor.hooks, hook.IsTextOnly) (config : BookConfig) (book : Book)
    (context : PageContext) :
    (preprocessor.process config book).1 =
      book.mapContent fun text => preprocessor.onText text context := by
  apply Book.walk_eq_mapContent
  intro chapter calls
  exact ⟨onChapter_eq_onText h config book.sourcePaths chapter context, rfl⟩

end Preprocessor

namespace Settings

/-- What the hooks that the settings ask for make of a text. -/
def rewrite (settings : Settings) (stripper : MarkerStripper) (text : String) : String :=
  if settings.badges then
    (BadgeRenderer.ofRepository settings.repository).render (stripper.strip text)
  else stripper.strip text

variable {settings : Settings} {stripper : MarkerStripper}

theorem preprocessor_eq_ok (h : MarkerStripper.ofNames settings.stripped = .ok stripper) :
    settings.preprocessor = .ok ⟨stripper.hook ::
      if settings.badges then [(BadgeRenderer.ofRepository settings.repository).hook] else []⟩ := by
  rw [preprocessor, h]
  rfl

theorem exists_stripper_of_preprocessor {preprocessor : Preprocessor}
    (h : settings.preprocessor = .ok preprocessor) :
    ∃ stripper, MarkerStripper.ofNames settings.stripped = .ok stripper := by
  cases hnames : MarkerStripper.ofNames settings.stripped with
  | error refusal =>
      rw [Settings.preprocessor, hnames] at h
      cases h
  | ok stripper => exact ⟨stripper, rfl⟩

theorem textOnly_of_preprocessor {preprocessor : Preprocessor}
    (h : settings.preprocessor = .ok preprocessor) :
    ∀ hook ∈ preprocessor.hooks, hook.IsTextOnly := by
  obtain ⟨stripper, hnames⟩ := exists_stripper_of_preprocessor h
  rw [preprocessor_eq_ok hnames] at h
  cases h
  intro hook hmem
  simp only [List.mem_cons] at hmem
  rcases hmem with rfl | hmem
  · exact fun _ _ _ => rfl
  · split at hmem
    · rw [List.mem_singleton.mp hmem]
      exact fun _ _ _ => rfl
    · cases hmem

theorem onText_eq_rewrite {preprocessor : Preprocessor}
    (hnames : MarkerStripper.ofNames settings.stripped = .ok stripper)
    (h : settings.preprocessor = .ok preprocessor) (text : String) (context : PageContext) :
    preprocessor.onText text context = settings.rewrite stripper text := by
  rw [preprocessor_eq_ok hnames] at h
  cases h
  rw [rewrite]
  split <;> rfl

/-- Over a book, the hooks that the settings ask for rewrite every content on its own. -/
theorem process_eq_rewrite (hnames : ∀ name ∈ settings.stripped, isBlank name.toList = false)
    {preprocessor : Preprocessor} (h : settings.preprocessor = .ok preprocessor)
    (config : BookConfig) (book : Book) :
    (preprocessor.process config book).1 =
      book.mapContent (settings.rewrite (.named settings.stripped hnames)) := by
  have hok := MarkerStripper.ofNames_eq_ok hnames
  let context : PageContext := ⟨⟨"", "", none, [], none, none, []⟩, config, []⟩
  rw [Preprocessor.process_eq_mapContent (textOnly_of_preprocessor h) config book context]
  congr 1
  ext1 text
  exact onText_eq_rewrite hok h text _

end Settings

end BookFilter
