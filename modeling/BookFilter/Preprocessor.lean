import BookFilter.Book.Walk
import BookFilter.Event
import BookFilter.Hook

/-! # Running hooks over a book

A preprocessor runs its hooks over every chapter, inside out, each hook on the text that the one
before it left. A hook that changes the text changes the chapter, and an event tells of it. Every
call of a hook is recorded together with its event. -/

namespace BookFilter

/-- One call of a hook, and the event that tells of it if it changed the text. -/
structure Call where
  hook : String
  text : String
  context : PageContext
  result : String
  event? : Option Event

/-- The hooks that are run over each page, in order. -/
structure Preprocessor where
  hooks : List PageHook

namespace Preprocessor

/-- The name by which the book builder knows the preprocessor. -/
def name : String := "niri-docs"

/-- Only the web renderer shows badges. -/
def supports (renderer : String) : Bool :=
  renderer = "html"

/-- Deletes `must-fail` markers and renders badges for the default repository. -/
def default : Preprocessor :=
  ⟨[MarkerStripper.default.hook, BadgeRenderer.default.hook]⟩

/-- The names of the hooks. -/
def hookNames (preprocessor : Preprocessor) : List String :=
  preprocessor.hooks.map PageHook.name

/-- Runs the hooks over a text on its own; each hook sees the same context. -/
def onText (preprocessor : Preprocessor) (text : String) (context : PageContext) : String :=
  preprocessor.hooks.foldl (fun text hook => hook.onPage text context) text

/-- What becomes of a chapter when a hook returns a text for it, and the event that tells of it. A
text that is the content of the chapter changes nothing. -/
def takeResult (hook : PageHook) (chapter : Chapter) (result : String) : Chapter × Option Event :=
  if result = chapter.content then (chapter, none)
  else (chapter.withContent result, some (.changed chapter.name hook.name))

theorem takeResult_fst (hook : PageHook) (chapter : Chapter) (result : String) :
    (takeResult hook chapter result).1 = chapter.withContent result := by
  unfold takeResult
  split
  · next hsame => rw [hsame, chapter.withContent_content]
  · rfl

theorem takeResult_snd (hook : PageHook) (chapter : Chapter) (result : String) :
    (takeResult hook chapter result).2 =
      if result = chapter.content then none else some (.changed chapter.name hook.name) := by
  unfold takeResult
  split <;> rfl

/-- Runs hooks over a chapter. Each sees the chapter with the content that the one before it
left. -/
def onChapter (config : BookConfig) (files : List String) :
    List PageHook → Chapter → Chapter × List Call
  | [], chapter => (chapter, [])
  | hook :: hooks, chapter =>
      let context := ⟨chapter, config, files⟩
      let result := hook.onPage chapter.content context
      let (next, event?) := takeResult hook chapter result
      let (chapter', calls) := onChapter config files hooks next
      (chapter', ⟨hook.name, chapter.content, context, result, event?⟩ :: calls)

/-- The first hook is called on the chapter, and the others have their turn with what it leaves. -/
theorem onChapter_cons (config : BookConfig) (files : List String) (hook : PageHook)
    (hooks : List PageHook) (chapter : Chapter) {result : String}
    (hresult : hook.onPage chapter.content ⟨chapter, config, files⟩ = result) :
    onChapter config files (hook :: hooks) chapter =
      ((onChapter config files hooks (chapter.withContent result)).1,
        ⟨hook.name, chapter.content, ⟨chapter, config, files⟩, result,
            (takeResult hook chapter result).2⟩ ::
          (onChapter config files hooks (chapter.withContent result)).2) := by
  subst hresult
  rw [← takeResult_fst hook]
  rfl

/-- Visits a chapter by running the hooks over it and recording their calls. It cannot fail. -/
def visit (preprocessor : Preprocessor) (config : BookConfig) (files : List String) :
    Visit (List Call) Empty := fun chapter calls =>
  let (chapter', more) := onChapter config files preprocessor.hooks chapter
  ⟨chapter', calls ++ more, none⟩

/-- Runs the hooks over every chapter of a book. Each call is told the source files of the book as
it was at the start. -/
def process (preprocessor : Preprocessor) (config : BookConfig) (book : Book) :
    Book × List Call :=
  let walked := book.walk (preprocessor.visit config book.sourcePaths) []
  (walked.value, walked.state)

end Preprocessor

/-- The events of calls, in order. -/
def Call.events (calls : List Call) : List Event :=
  calls.filterMap Call.event?

end BookFilter
