import BookFilter.Book

/-! # Walks over the chapters of a book

A walk visits the chapters inside out: the sub-items of a chapter before the chapter itself. A visit
may change the chapter and a state, and it may fail; the first failure ends the walk, and whatever
had changed by then stays changed. -/

namespace BookFilter

/-- Where a walk has come to: the value walked over, the state, and the failure that ended it. -/
structure Walked (σ ε α : Type) where
  value : α
  state : σ
  failure : Option ε

/-- What is done at a chapter whose sub-items have been walked over. -/
abbrev Visit (σ ε : Type) := Chapter → σ → Walked σ ε Chapter

variable {σ ε : Type}

mutual

/-- Walks over an item. -/
def Item.walk (visit : Visit σ ε) : Item → σ → Walked σ ε Item
  | .chapter page, state =>
      let walked := page.walk visit state
      ⟨.chapter walked.value, walked.state, walked.failure⟩
  | .separator, state => ⟨.separator, state, none⟩
  | .partTitle title, state => ⟨.partTitle title, state, none⟩

/-- Walks over the sub-items of a chapter, then visits the chapter. -/
def Chapter.walk (visit : Visit σ ε) : Chapter → σ → Walked σ ε Chapter
  | ⟨name, content, number, subItems, path, sourcePath, parentNames⟩, state =>
      let walked := walkItems visit subItems state
      let chapter := ⟨name, content, number, walked.value, path, sourcePath, parentNames⟩
      match walked.failure with
      | some failure => ⟨chapter, walked.state, some failure⟩
      | none => visit chapter walked.state

/-- Walks over items from the left, up to the first failure. -/
def walkItems (visit : Visit σ ε) : List Item → σ → Walked σ ε (List Item)
  | [], state => ⟨[], state, none⟩
  | item :: items, state =>
      let first := item.walk visit state
      match first.failure with
      | some failure => ⟨first.value :: items, first.state, some failure⟩
      | none =>
          let others := walkItems visit items first.state
          ⟨first.value :: others.value, others.state, others.failure⟩

end

/-- Walks over a book. -/
def Book.walk (visit : Visit σ ε) (book : Book) (state : σ) : Walked σ ε Book :=
  let walked := walkItems visit book.sections state
  ⟨⟨walked.value⟩, walked.state, walked.failure⟩

end BookFilter
