import BookFilter.Text.Quoted

/-! # Log events -/

namespace BookFilter

/-- The release of the book builder that this library is made for. -/
def builtAgainst : String := "0.4.52"

/-- What a run reports as it goes. -/
inductive Event where
  /-- The hooks of a preprocessor have been set up. -/
  | created (hooks : List String)
  /-- A hook changed the content of a chapter. -/
  | changed (chapter hook : String)
  /-- The caller is a release of the book builder that need not fit. -/
  | mismatch (calling : String)
deriving DecidableEq, Repr

namespace Event

/-- How grave the event is. -/
def level : Event → String
  | created _ | changed _ _ => "DEBUG"
  | mismatch _ => "WARN"

/-- The wording of the event. -/
def message : Event → String
  | created _ => "created preprocessor"
  | changed _ _ => "rewrote chapter"
  | mismatch _ => "mdbook version mismatch, output may be off"

/-- The details of the event by name. -/
def fields : Event → List (String × String)
  | created hooks => [("hooks", Text.quotedList hooks)]
  | changed chapter hook => [("chapter", chapter), ("hook", hook)]
  | mismatch calling => [("built_against", builtAgainst), ("calling", calling)]

end Event

end BookFilter
