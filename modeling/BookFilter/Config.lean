import BookFilter.Config.Value

/-! # Book configurations

A book configuration is a table. In its current form the sections `book`, `build` and `rust` must be
of their shapes, and everything else is kept. Of a table with keys of the form before it everything
but those keys is kept. -/

namespace BookFilter

/-- Why a value is no book configuration. -/
inductive ConfigFault where
  /-- Something in it is not as it has to be. -/
  | refused
  /-- It is no table. -/
  | notTable
deriving DecidableEq, Repr

/-- The configuration of a book: its title, and the table that other settings are looked up in. -/
structure BookConfig where
  title : Option String
  settings : ConfigValue

namespace BookConfig

open ConfigValue

/-- The section about the book. -/
def bookShape : SectionShape := [
  ("title", .text), ("authors", .texts), ("description", .text), ("src", .text),
  ("multilingual", .flag), ("language", .text), ("text-direction", .oneOf ["ltr", "rtl"])]

/-- The section about building the book. -/
def buildShape : SectionShape := [
  ("build-dir", .text), ("create-missing", .flag), ("use-default-preprocessors", .flag),
  ("extra-watch-dirs", .texts)]

/-- The section about code samples. -/
def samplesShape : SectionShape := [
  ("edition", .oneOf ["2015", "2018", "2021", "2024"])]

/-- The sections with their shapes. -/
def sections : List (String × SectionShape) := [
  ("book", bookShape), ("build", buildShape), ("rust", samplesShape)]

/-- The paths of keys that give away the form before the current one. -/
def legacyPaths : List (List String) := [
  ["title"], ["authors"], ["source"], ["description"], ["output", "html", "destination"]]

/-- Whether a configuration is of the form before the current one. -/
def isLegacy (value : ConfigValue) : Bool :=
  legacyPaths.any fun path => (value.at? path).isSome

/-- A configuration less what is of the form before the current one. -/
def withoutLegacy (value : ConfigValue) : ConfigValue :=
  legacyPaths.foldl (fun value path => value.remove path) value

/-- The title that a section about the book gives. -/
def titleOf : ConfigValue → Option String
  | .array (title :: _) => text? title
  | value => (value.get? "title").bind text?

/-- The configuration that a value is. -/
def ofValue (value : ConfigValue) : Except ConfigFault BookConfig :=
  match value with
  | .table entries =>
      if isLegacy value then .ok ⟨(value.get? "title").bind text?, withoutLegacy value⟩
      else if sections.all fun (key, shape) => (value.get? key).all (·.isSection shape) then
        .ok ⟨(value.get? "book").bind titleOf,
          .table (entries.filter fun (key, _) => !(sections.map Prod.fst).contains key)⟩
      else .error .refused
  | _ => .error .notTable

/-- The configuration that a JSON value is, where arrays and objects nest at most `room` deep. -/
def ofJson (room : Nat) (value : Json) : Except ConfigFault BookConfig :=
  match ConfigValue.ofJson? room value with
  | some value => ofValue value
  | none => .error .refused

/-- The configuration with nothing in it. -/
def empty : BookConfig :=
  ⟨none, .table []⟩

end BookConfig

end BookFilter
