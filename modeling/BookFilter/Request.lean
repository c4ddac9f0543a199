import BookFilter.Book.Json
import BookFilter.Config
import BookFilter.Json.Reader
import BookFilter.Text.Utf8

/-! # Requests of the book builder

The book builder sends a context and a book as the two values of an array. -/

namespace BookFilter

/-- What the book builder says about the run. -/
structure RunContext where
  root : String
  config : BookConfig
  renderer : String
  version : String

/-- A request to run over a book. -/
structure Request where
  context : RunContext
  book : Book

namespace RunContext

/-- The keys of a context. -/
def keys : List String := ["root", "config", "renderer", "mdbook_version"]

/-- A context of which only some values are known yet. -/
structure Draft where
  root : Option String := none
  config : Option BookConfig := none
  renderer : Option String := none
  version : Option String := none

/-- The context, once all values are known. -/
def Draft.finish (draft : Draft) : Reading RunContext := do
  let some root := draft.root | .error .malformed
  let some config := draft.config | .error .malformed
  let some renderer := draft.renderer | .error .malformed
  let some version := draft.version | .error .malformed
  return ⟨root, config, renderer, version⟩

/-- The configuration of the book. -/
def readConfig (room : Nat) (value : Json) : Reading BookConfig :=
  match BookConfig.ofJson room value with
  | .ok config => .ok config
  | .error .refused => .error .malformed
  | .error .notTable => .error .configNotTable

/-- Takes the value of a key into a context. -/
def Draft.take (room : Nat) (key : String) (value : Json) (draft : Draft) : Reading Draft := do
  match key with
  | "root" => return { draft with root := ← value.toText }
  | "config" => return { draft with config := ← readConfig room value }
  | "renderer" => return { draft with renderer := ← value.toText }
  | "mdbook_version" => return { draft with version := ← value.toText }
  | _ => return draft

/-- The context that a JSON value is, where arrays and objects nest at most `room` deep. -/
def ofJson (room : Nat) (value : Json) : Reading RunContext := do
  (← value.readRecord room keys (Draft.take (room - 1)) {}).finish

end RunContext

namespace Request

/-- How deep arrays and objects may nest in a request. -/
def maxDepth : Nat := 127

/-- The request that a JSON value is. -/
def ofJson (value : Json) : Reading Request := do
  match ← value.items maxDepth with
  | context :: values => do
      let context ← RunContext.ofJson (maxDepth - 1) context
      match values with
      | [book] => return ⟨context, ← Book.ofJson (maxDepth - 1) book⟩
      | _ => .error .malformed
  | [] => .error .malformed

/-- The request that a text is. -/
def ofInput (input : Input) : Reading Request := do
  let (value, rest) := Json.read input
  let request ← ofJson value
  if rest = [] then return request else .error .malformed

/-- The request that bytes are. -/
def ofBytes (bytes : ByteArray) : Reading Request :=
  ofInput (Text.charsOfUtf8 bytes)

end Request

end BookFilter
