import BookFilter.Config
import BookFilter.Preprocessor

/-! # Settings of the preprocessor

The settings stand under `preprocessor.niri-docs` in the configuration of the book: a table with
some of the three keys, or an array of the first so many values. What is missing has its default. -/

namespace BookFilter

/-- What the preprocessor can be told. -/
structure Settings where
  repository : String
  stripped : List String
  badges : Bool
deriving DecidableEq, Repr

namespace Settings

/-- The settings where nothing is told. -/
def default : Settings :=
  ⟨BadgeRenderer.defaultRepository, [MarkerStripper.defaultName], true⟩

/-- The key of the repository. -/
def repositoryKey : String := "repository"

/-- The key of the names whose markers are stripped. -/
def strippedKey : String := "strip-annotations"

/-- The key of the switch for badges. -/
def badgesKey : String := "version-badges"

/-- What a value has to be. -/
inductive Wanted where
  | text
  | sequence
  | flag
  | settings
deriving DecidableEq, Repr

/-- Why a value gives no settings. -/
inductive Fault where
  /-- A value is of the wrong kind; in a table, under this key. -/
  | wrongKind (found : ConfigValue) (wanted : Wanted) (key : Option String)
  /-- An array has more values than there are settings. -/
  | tooMany (length : Nat)

/-- The words for what a value has to be. -/
def Wanted.describe : Wanted → String
  | text => "a string"
  | sequence => "a sequence"
  | flag => "a boolean"
  | settings => "struct NiriDocsConfig"

/-- The words for what a value is. -/
def describe : ConfigValue → String
  | .string text => "string " ++ Text.quoted text
  | .datetime value => "string " ++ Text.quoted value.render
  | .integer value => s!"integer `{value}`"
  | .float negative magnitude =>
      let sign := if negative then "-" else ""
      s!"floating point `{sign}{magnitude.positional}`"
  | .boolean value => s!"boolean `{value}`"
  | .array _ => "sequence"
  | .table _ => "map"

/-- The wording of a fault. -/
def Fault.message : Fault → String
  | wrongKind found wanted key =>
      let place := match key with
        | some key => s!" for key `{key}`"
        | none => ""
      s!"invalid type: {describe found}, expected {wanted.describe}{place}"
  | tooMany length => s!"invalid length {length}, expected fewer elements in array"

/-- A text. -/
def readText (key : Option String) (value : ConfigValue) : Except Fault String :=
  match value.text? with
  | some text => .ok text
  | none => .error (.wrongKind value .text key)

/-- A list of texts. -/
def readTexts (key : Option String) : ConfigValue → Except Fault (List String)
  | .array items => items.mapM (readText key)
  | value => .error (.wrongKind value .sequence key)

/-- A truth value. -/
def readFlag (key : Option String) : ConfigValue → Except Fault Bool
  | .boolean value => .ok value
  | value => .error (.wrongKind value .flag key)

/-- A value that may be missing. -/
def readOr {α : Type} (fallback : α) (read : ConfigValue → Except Fault α) :
    Option ConfigValue → Except Fault α
  | some value => read value
  | none => .ok fallback

/-- Settings from their values by key. -/
def ofEntries (get? : String → Option ConfigValue) : Except Fault Settings := do
  let repository ← readOr default.repository (readText (some repositoryKey)) (get? repositoryKey)
  let stripped ← readOr default.stripped (readTexts (some strippedKey)) (get? strippedKey)
  let badges ← readOr default.badges (readFlag (some badgesKey)) (get? badgesKey)
  return ⟨repository, stripped, badges⟩

/-- Settings from their values in order. -/
def ofItems (items : List ConfigValue) : Except Fault Settings := do
  let repository ← readOr default.repository (readText none) items[0]?
  let stripped ← readOr default.stripped (readTexts none) items[1]?
  let badges ← readOr default.badges (readFlag none) items[2]?
  if 3 < items.length then .error (.tooMany items.length)
  else return ⟨repository, stripped, badges⟩

/-- The settings that a value gives. -/
def ofValue : ConfigValue → Except Fault Settings
  | .table entries => ofEntries fun key => entries.lookup key
  | .array items => ofItems items
  | value => .error (.wrongKind value .settings none)

/-- The value under `preprocessor.niri-docs` in the configuration of a book. -/
def given? (config : BookConfig) : Option ConfigValue :=
  (config.settings.get? "preprocessor").bind (ConfigValue.get? Preprocessor.name)

/-- The settings in the configuration of a book. -/
def ofConfig (config : BookConfig) : Except Fault Settings :=
  readOr default ofValue (given? config)

/-- The preprocessor with these settings, unless one of the names is blank. -/
def preprocessor (settings : Settings) : Except BlankName Preprocessor := do
  let stripper ← MarkerStripper.ofNames settings.stripped
  let badges :=
    if settings.badges then [(BadgeRenderer.ofRepository settings.repository).hook] else []
  return ⟨stripper.hook :: badges⟩

end Settings

end BookFilter
