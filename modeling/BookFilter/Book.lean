/-! # Books

A book is a list of items: chapters, which hold items of their own, separators and part titles.
The reading order of its items puts a chapter before what it holds. -/

namespace BookFilter

mutual

/-- An entry in the table of contents. -/
inductive Item where
  | separator
  | partTitle (title : String)
  | chapter (page : Chapter)

/-- A page of the book with its place in the table of contents. A draft has no path. -/
structure Chapter where
  name : String
  content : String
  number : Option (List UInt32)
  subItems : List Item
  path : Option String
  sourcePath : Option String
  parentNames : List String

end

/-- A book. -/
structure Book where
  sections : List Item

/-- A chapter with another content. -/
def Chapter.withContent (chapter : Chapter) (content : String) : Chapter :=
  { chapter with content := content }

theorem Chapter.withContent_content (page : Chapter) : page.withContent page.content = page := by
  cases page
  rfl

mutual

/-- An item and all that it holds, in reading order. -/
def Item.flatten : Item → List Item
  | .chapter page => .chapter page :: page.flattenSubItems
  | .separator => [.separator]
  | .partTitle title => [.partTitle title]

/-- All that a chapter holds, in reading order. -/
def Chapter.flattenSubItems : Chapter → List Item
  | ⟨_, _, _, subItems, _, _, _⟩ => flattenItems subItems

/-- The items and all that they hold, in reading order. -/
def flattenItems : List Item → List Item
  | [] => []
  | item :: items => item.flatten ++ flattenItems items

end

/-- The chapter that an item is. -/
def Item.chapter? : Item → Option Chapter
  | .chapter page => some page
  | _ => none

namespace Book

/-- All items of a book in reading order. -/
def items (book : Book) : List Item :=
  flattenItems book.sections

/-- All chapters of a book in reading order. -/
def chapters (book : Book) : List Chapter :=
  book.items.filterMap Item.chapter?

/-- The source files of a book in reading order. -/
def sourcePaths (book : Book) : List String :=
  book.chapters.filterMap Chapter.sourcePath

/-- A book with one more item at its end. -/
def push (book : Book) (item : Item) : Book :=
  ⟨book.sections ++ [item]⟩

end Book

end BookFilter
