import BookFilter.Book
import BookFilter.Json.Record

/-! # Books as JSON

A book is written with all its keys in a fixed order. It is read from keys in any order or from
values in order; a separator may be written in two ways. -/

namespace BookFilter

/-- The keys of a book. -/
def Book.keys : List String := ["sections", "__non_exhaustive"]

/-- The keys of a chapter. -/
def Chapter.keys : List String :=
  ["name", "content", "number", "sub_items", "path", "source_path", "parent_names"]

/-- A text, or `null` if there is none. -/
def Json.ofText? : Option String → Json
  | some text => .text text
  | none => .null

/-- The number of a chapter. -/
def Json.ofSectionNumber : Option (List UInt32) → Json
  | some parts => .array (parts.map fun part => .number (.ofNat part.toNat))
  | none => .null

mutual

/-- An item as JSON. -/
def Item.toJson : Item → Json
  | .separator => .text "Separator"
  | .partTitle title => .record [("PartTitle", .text title)]
  | .chapter page => .record [("Chapter", page.toJson)]

/-- A chapter as JSON. -/
def Chapter.toJson : Chapter → Json
  | ⟨name, content, number, subItems, path, sourcePath, parentNames⟩ =>
      .record [
        ("name", .text name), ("content", .text content), ("number", .ofSectionNumber number),
        ("sub_items", .array (itemsToJson subItems)), ("path", .ofText? path),
        ("source_path", .ofText? sourcePath),
        ("parent_names", .array (parentNames.map .text))]

/-- Items as JSON. -/
def itemsToJson : List Item → List Json
  | [] => []
  | item :: items => item.toJson :: itemsToJson items

end

/-- A book as JSON. -/
def Book.toJson (book : Book) : Json :=
  .record [("sections", .array (itemsToJson book.sections)), ("__non_exhaustive", .null)]

namespace Json

/-- A part of the number of a chapter. -/
def toSectionPart : Json → Reading UInt32
  | .number value =>
      match value.toNat? with
      | some n => if n < UInt32.size then .ok (UInt32.ofNat n) else .error .malformed
      | none => .error .malformed
  | _ => .error .malformed

/-- The number of a chapter. -/
def toSectionNumber (room : Nat) (value : Json) : Reading (Option (List UInt32)) :=
  value.orNull fun value => do
    (← value.items room).mapM toSectionPart

/-- A list of texts. -/
def toTexts (room : Nat) (value : Json) : Reading (List String) := do
  (← value.items room).mapM toText

end Json

/-- A chapter of which only some values are known yet. -/
structure Chapter.Draft where
  name : Option String := none
  content : Option String := none
  number : Option (Option (List UInt32)) := none
  subItems : Option (List Item) := none
  path : Option (Option String) := none
  sourcePath : Option (Option String) := none
  parentNames : Option (List String) := none

/-- The chapter, once all values are known that must not be missing. -/
def Chapter.Draft.finish (draft : Chapter.Draft) : Reading Chapter := do
  let some name := draft.name | .error .malformed
  let some content := draft.content | .error .malformed
  let some subItems := draft.subItems | .error .malformed
  let some parentNames := draft.parentNames | .error .malformed
  return {
    name, content, subItems, parentNames
    number := draft.number.join
    path := draft.path.join
    sourcePath := draft.sourcePath.join }

/-- Takes the value of a key into a chapter; sub-items are read as told. -/
def Chapter.Draft.take (room : Nat) (toItem : Json → Reading Item) (key : String) (value : Json)
    (draft : Chapter.Draft) : Reading Chapter.Draft := do
  match key with
  | "name" => return { draft with name := ← value.toText }
  | "content" => return { draft with content := ← value.toText }
  | "number" => return { draft with number := ← value.toSectionNumber room }
  | "sub_items" => return { draft with subItems := ← (← value.items room).mapM toItem }
  | "path" => return { draft with path := ← value.orNull Json.toText }
  | "source_path" => return { draft with sourcePath := ← value.orNull Json.toText }
  | "parent_names" => return { draft with parentNames := ← value.toTexts room }
  | _ => return draft

/-- The item that a JSON value is, where arrays and objects nest at most `room` deep. -/
def Item.ofJson : (room : Nat) → Json → Reading Item
  | _, .string (some "Separator") => .ok .separator
  | _ + 1, .object [⟨some "Separator", .null⟩] => .ok .separator
  | _ + 1, .object [⟨some "PartTitle", value⟩] => do return .partTitle (← value.toText)
  | room + 3, .object [⟨some "Chapter", value⟩] => do
      let draft ← value.readRecord (room + 2) Chapter.keys (Chapter.Draft.take (room + 1)
        (Item.ofJson room)) {}
      return .chapter (← draft.finish)
  | _, _ => .error .malformed

/-- A book of which only some values are known yet. -/
structure Book.Draft where
  sections : Option (List Item) := none
  nothing : Option Unit := none

/-- The book, once all values are known. -/
def Book.Draft.finish (draft : Book.Draft) : Reading Book := do
  let some sections := draft.sections | .error .malformed
  let some () := draft.nothing | .error .malformed
  return ⟨sections⟩

/-- Takes the value of a key into a book. -/
def Book.Draft.take (room : Nat) (key : String) (value : Json) (draft : Book.Draft) :
    Reading Book.Draft := do
  match key with
  | "sections" =>
      return { draft with sections := ← (← value.items room).mapM (Item.ofJson (room - 1)) }
  | "__non_exhaustive" => return { draft with nothing := ← value.toNull }
  | _ => return draft

/-- The book that a JSON value is, where arrays and objects nest at most `room` deep. -/
def Book.ofJson (room : Nat) (value : Json) : Reading Book := do
  (← value.readRecord room Book.keys (Book.Draft.take (room - 1)) {}).finish

end BookFilter
