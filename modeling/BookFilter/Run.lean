import BookFilter.Config.Settings
import BookFilter.Json.Printer
import BookFilter.Request
import BookFilter.Requirement

/-! # Runs

A run reads a request, checks the release of the caller, sets up the preprocessor from the settings
in the configuration and runs it over the book. It reports events as it goes and stops at the first
fault. -/

namespace BookFilter

/-- Why a run gives no book. -/
inductive RunFault where
  | unreadable
  /-- The book configuration is no table, which ends the program at once. -/
  | configNotTable
  | version (calling : String) (fault : Version.Fault)
  /-- The release that the library is made for does not make a requirement. -/
  | requirement (fault : Version.Fault)
  | settings (fault : Settings.Fault)
  | names (refusal : BlankName)

namespace RunFault

/-- The table of the settings as messages name it. -/
def tableName : String := "[preprocessor.niri-docs]"

/-- The wording of a fault, from the outermost message to the innermost. -/
def messages : RunFault → List String
  | unreadable => ["Could not parse book from stdin", "Unable to parse the input"]
  | configNotTable => ["root must be a table"]
  | version calling fault => [s!"Invalid mdbook version `{calling}`", fault.message]
  | requirement fault => [fault.message]
  | settings fault =>
      [s!"Could not deserialize {tableName}", "Couldn't deserialize the value", fault.message]
  | names refusal => [s!"Invalid `strip-annotations` in {tableName}", refusal.message]

/-- The wording of a fault as one text. -/
def message (fault : RunFault) : String :=
  ": ".intercalate fault.messages

end RunFault

/-- What comes of a run: events, and a result unless there is a fault. -/
structure Outcome (α : Type) where
  events : List Event
  result : Except RunFault α

namespace Outcome

variable {α β : Type}

/-- Goes on after a result; events are put together. -/
def bind (outcome : Outcome α) (next : α → Outcome β) : Outcome β :=
  match outcome.result with
  | .ok value =>
      let others := next value
      ⟨outcome.events ++ others.events, others.result⟩
  | .error fault => ⟨outcome.events, .error fault⟩

instance : Monad Outcome where
  pure value := ⟨[], .ok value⟩
  bind := bind

/-- A result without events, or a fault. -/
def ofExcept (result : Except RunFault α) : Outcome α :=
  ⟨[], result⟩

/-- Reports an event. -/
def report (event : Event) : Outcome Unit :=
  ⟨[event], .ok ()⟩

end Outcome

/-- Checks the release of the caller, and reports one that does not meet the requirement that the
release makes which this library is made for. -/
def checkVersion (calling : String) : Outcome Unit := do
  let version ← .ofExcept ((Version.parse calling.toList).mapError (.version calling))
  let requirement ← .ofExcept ((Requirement.parse builtAgainst.toList).mapError .requirement)
  if requirement.isMetBy version then pure () else .report (.mismatch calling)

/-- Sets up the preprocessor, and reports its hooks. -/
def Settings.create (settings : Settings) : Outcome Preprocessor := do
  let preprocessor ← .ofExcept (settings.preprocessor.mapError .names)
  .report (.created preprocessor.hookNames)
  return preprocessor

/-- Runs the hooks over a book and reports what they changed. -/
def Preprocessor.processBook (preprocessor : Preprocessor) (config : BookConfig) (book : Book) :
    Outcome Book :=
  let (book, calls) := preprocessor.process config book
  ⟨Call.events calls, .ok book⟩

/-- Runs over a book as the book builder asks for it. The hooks are set up from the configuration;
the preprocessor's own are not used. -/
def Preprocessor.run (_ : Preprocessor) (config : BookConfig) (book : Book) : Outcome Book := do
  let settings ← .ofExcept ((Settings.ofConfig config).mapError .settings)
  let preprocessor ← settings.create
  preprocessor.processBook config book

/-- Answers a request. -/
def Request.run (request : Request) : Outcome Book := do
  checkVersion request.context.version
  Preprocessor.default.run request.context.config request.book

/-- The fault that ends a run whose request cannot be read. -/
def RunFault.ofRead : ReadFault → RunFault
  | .malformed => .unreadable
  | .configNotTable => .configNotTable

/-- Reads a request and answers it with the book as text. -/
def run (bytes : ByteArray) : Outcome String := do
  let request ← .ofExcept ((Request.ofBytes bytes).mapError .ofRead)
  let book ← request.run
  return book.toJson.render

end BookFilter
