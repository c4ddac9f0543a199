import BookFilter.Book.Walk
import BookFilter.Proofs.Positions

/-!
# Walks that do not fail

A visit that never fails and only adds to its state makes a walk a change of every chapter from the
inside out. What it adds comes from the chapters in that order, each with its sub-items already
changed.
-/

namespace BookFilter

mutual

/-- An item with every chapter in it changed, from the inside out. -/
def Item.mapInsideOut (change : Chapter → Chapter) : Item → Item
  | .chapter page => .chapter (page.mapInsideOut change)
  | .separator => .separator
  | .partTitle title => .partTitle title

/-- A chapter with the chapters in it changed, then itself. -/
def Chapter.mapInsideOut (change : Chapter → Chapter) : Chapter → Chapter
  | ⟨name, content, number, subItems, path, sourcePath, parentNames⟩ =>
      change ⟨name, content, number, mapItemsInsideOut change subItems, path, sourcePath,
        parentNames⟩

/-- Items with every chapter in them changed, from the inside out. -/
def mapItemsInsideOut (change : Chapter → Chapter) : List Item → List Item
  | [] => []
  | item :: items => item.mapInsideOut change :: mapItemsInsideOut change items

end

/-- A book with every chapter changed, from the inside out. -/
def Book.mapInsideOut (change : Chapter → Chapter) (book : Book) : Book :=
  ⟨mapItemsInsideOut change book.sections⟩

/-- A chapter as it is when its turn comes: what it holds has been changed, itself not yet. -/
def Chapter.inTurn (change : Chapter → Chapter) (chapter : Chapter) : Chapter :=
  chapter.withSubItems (mapItemsInsideOut change chapter.subItems)

theorem Chapter.mapInsideOut_eq (change : Chapter → Chapter) (chapter : Chapter) :
    chapter.mapInsideOut change = change (chapter.inTurn change) := by
  cases chapter
  rfl

theorem mapItemsInsideOut_eq_map (change : Chapter → Chapter) (items : List Item) :
    mapItemsInsideOut change items = items.map (Item.mapInsideOut change) := by
  induction items with
  | nil => rfl
  | cons item items ih => rw [mapItemsInsideOut, ih, List.map_cons]

section Positions

variable {change : Chapter → Chapter}

/-- A change of chapters that leaves their sub-items alone leaves every chapter in its place. -/
theorem Item.chapterAt?_mapInsideOut (h : ∀ page, (change page).subItems = page.subItems)
    (item : Item) (position : Position) :
    (item.mapInsideOut change).chapterAt? position =
      (item.chapterAt? position).map (Chapter.mapInsideOut change) := by
  induction position generalizing item with
  | nil => cases item <;> rfl
  | cons i rest ih =>
      cases item with
      | separator => rfl
      | partTitle title => rfl
      | chapter page =>
          have hitems : (page.mapInsideOut change).subItems =
              page.subItems.map (Item.mapInsideOut change) := by
            rw [Chapter.mapInsideOut_eq, h, ← mapItemsInsideOut_eq_map]
            rfl
          simp only [Item.mapInsideOut, Item.chapterAt?, Item.chapter?, Option.bind_eq_bind,
            Option.bind_some, hitems, List.getElem?_map]
          cases page.subItems[i]? with
          | none => rfl
          | some inner => exact ih inner

theorem Book.chapterAt?_mapInsideOut (h : ∀ page, (change page).subItems = page.subItems)
    (book : Book) (position : Position) :
    (book.mapInsideOut change).chapterAt? position =
      (book.chapterAt? position).map (Chapter.mapInsideOut change) := by
  cases position with
  | nil => rfl
  | cons i rest =>
      simp only [Book.mapInsideOut, Book.chapterAt?, chapterAmong?, mapItemsInsideOut_eq_map,
        List.getElem?_map]
      cases book.sections[i]? with
      | none => rfl
      | some item => exact item.chapterAt?_mapInsideOut h rest

end Positions

section Walk

variable {ε τ : Type}

/-- The visit changes a chapter, adds something to its state, and does not fail. -/
def Visit.Logs (visit : Visit (List τ) ε) (change : Chapter → Chapter)
    (log : Chapter → List τ) : Prop :=
  ∀ chapter state, visit chapter state = ⟨change chapter, state ++ log chapter, none⟩

/-- What is added at places, each chapter taken when its turn comes. -/
def logAt (change : Chapter → Chapter) (log : Chapter → List τ)
    (places : List (Position × Chapter)) : List τ :=
  places.flatMap fun (_, page) => log (page.inTurn change)

variable {visit : Visit (List τ) ε} {change : Chapter → Chapter} {log : Chapter → List τ}

mutual

/-- A walk changes every chapter and adds what its visits add, both from the inside out. -/
theorem Item.walk_of_logs (h : visit.Logs change log) (item : Item) (state : List τ) :
    item.walk visit state =
      ⟨item.mapInsideOut change, state ++ logAt change log (item.places .insideOut), none⟩ := by
  match item with
  | .chapter page =>
      rw [Item.walk, page.walk_of_logs h]
      rfl
  | .separator => simp [Item.walk, Item.mapInsideOut, Item.places, logAt]
  | .partTitle _ => simp [Item.walk, Item.mapInsideOut, Item.places, logAt]

theorem Chapter.walk_of_logs (h : visit.Logs change log) (chapter : Chapter) (state : List τ) :
    chapter.walk visit state =
      ⟨chapter.mapInsideOut change, state ++ logAt change log (chapter.places .insideOut),
        none⟩ := by
  match chapter with
  | ⟨name, content, number, subItems, path, sourcePath, parentNames⟩ =>
      rw [Chapter.walk, walkItems_of_logs h subItems 0, h, Chapter.mapInsideOut, Chapter.places,
        Traversal.arrange, logAt, logAt, List.flatMap_append, List.flatMap_singleton,
        List.append_assoc]
      rfl

theorem walkItems_of_logs (h : visit.Logs change log) (items : List Item) (i : Nat)
    (state : List τ) :
    walkItems visit items state =
      ⟨mapItemsInsideOut change items, state ++ logAt change log (placesFrom .insideOut i items),
        none⟩ := by
  match items with
  | [] => simp [walkItems, mapItemsInsideOut, placesFrom, logAt]
  | item :: items =>
      rw [walkItems, item.walk_of_logs h, walkItems_of_logs h items (i + 1), mapItemsInsideOut,
        placesFrom, logAt, logAt, logAt, List.flatMap_append, List.flatMap_map, List.append_assoc]

end

theorem Book.walk_of_logs (h : visit.Logs change log) (book : Book) (state : List τ) :
    book.walk visit state =
      ⟨book.mapInsideOut change, state ++ logAt change log (book.places .insideOut), none⟩ := by
  rw [Book.walk, walkItems_of_logs h book.sections 0]
  rfl

end Walk

end BookFilter
