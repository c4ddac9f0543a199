import BookFilter.Badge
import BookFilter.Book
import BookFilter.Config
import BookFilter.Marker

/-! # Page hooks

A hook is a named text filter for pages. It is told which page of which book the text belongs to;
the built-in hooks look at the text only. -/

namespace BookFilter

/-- What a hook may know about the page in hand: the chapter as it is by now, the configuration and
the source files of the book. -/
structure PageContext where
  page : Chapter
  config : BookConfig
  files : List String

/-- A named text filter. -/
structure PageHook where
  name : String
  onPage : String → PageContext → String

/-- The hook that deletes markers. -/
def MarkerStripper.hook (stripper : MarkerStripper) : PageHook :=
  ⟨"strip-annotations", fun text _ => stripper.strip text⟩

/-- The hook that renders badges. -/
def BadgeRenderer.hook (renderer : BadgeRenderer) : PageHook :=
  ⟨"version-badges", fun text _ => renderer.render text⟩

end BookFilter
