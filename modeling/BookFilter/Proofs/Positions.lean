import BookFilter.Book
import Mathlib.Data.List.Basic

/-!
# Positions of chapters in a book

A chapter is identified by where it stands: the number of a section, the number of an item in that
chapter, and so on. All chapters can be gone through from the outside in, which is the reading
order, or from the inside out; both list every position once, sorted.
-/

namespace BookFilter

/-- The numbers of the items that lead to an item, from the outermost, each counted from 0. -/
abbrev Position := List Nat

/-- A chapter with other sub-items. -/
def Chapter.withSubItems (chapter : Chapter) (subItems : List Item) : Chapter :=
  { chapter with subItems := subItems }

/-- The chapter at a position within an item, which is itself at the empty position. -/
def Item.chapterAt? : Item → Position → Option Chapter
  | item, [] => item.chapter?
  | item, i :: rest => do
      let page ← item.chapter?
      let inner ← page.subItems[i]?
      inner.chapterAt? rest

/-- The chapter at a position within a list of items. -/
def chapterAmong? (items : List Item) : Position → Option Chapter
  | [] => none
  | i :: rest => items[i]?.bind fun item => item.chapterAt? rest

/-- The chapter at a position of a book. -/
def Book.chapterAt? (book : Book) (position : Position) : Option Chapter :=
  chapterAmong? book.sections position

/-- The content of the chapter at a position of a book. -/
def Book.contentAt? (book : Book) (position : Position) : Option String :=
  (book.chapterAt? position).map Chapter.content

theorem Item.chapterAt?_chapter (page : Chapter) (position : Position) :
    (Item.chapter page).chapterAt? position =
      if position = [] then some page else chapterAmong? page.subItems position := by
  cases position <;> rfl

/-- The two orders in which the chapters of a book are gone through. -/
inductive Traversal where
  /-- A chapter comes before what it holds. -/
  | outsideIn
  /-- A chapter comes after what it holds. -/
  | insideOut

/-- Puts a chapter before or after what it holds. -/
def Traversal.arrange {α : Type} : Traversal → α → List α → List α
  | .outsideIn, outer, inner => outer :: inner
  | .insideOut, outer, inner => inner ++ [outer]

theorem Traversal.mem_arrange {α : Type} {traversal : Traversal} {a outer : α} {inner : List α} :
    a ∈ traversal.arrange outer inner ↔ a = outer ∨ a ∈ inner := by
  cases traversal with
  | outsideIn => exact List.mem_cons
  | insideOut => rw [arrange, List.mem_append, List.mem_singleton, or_comm]

namespace Position

/-- The first position is come to before the second one. -/
inductive Before : Traversal → Position → Position → Prop
  | outer (i : Nat) (rest : Position) : Before .outsideIn [] (i :: rest)
  | inner (i : Nat) (rest : Position) : Before .insideOut (i :: rest) []
  | left {traversal : Traversal} {i j : Nat} (h : i < j) (p q : Position) :
      Before traversal (i :: p) (j :: q)
  | under {traversal : Traversal} {p q : Position} (i : Nat) (h : Before traversal p q) :
      Before traversal (i :: p) (i :: q)

/-- Of two positions at most one is before the other, and none is before itself. -/
theorem Before.asymm {traversal : Traversal} {position other : Position}
    (h : Before traversal position other) : ¬ Before traversal other position := by
  induction h with
  | outer i rest => rintro ⟨⟩
  | inner i rest => rintro ⟨⟩
  | left hij p q =>
      intro h
      cases h with
      | left hji => exact Nat.lt_asymm hij hji
      | under => exact Nat.lt_irrefl _ hij
  | under i _ ih =>
      intro h
      cases h with
      | left hii => exact Nat.lt_irrefl i hii
      | under _ h => exact ih h

end Position

mutual

/-- The chapters in an item with their positions in it. -/
def Item.places (traversal : Traversal) : Item → List (Position × Chapter)
  | .chapter page => page.places traversal
  | .separator => []
  | .partTitle _ => []

/-- A chapter and the chapters in it with their positions in it. -/
def Chapter.places (traversal : Traversal) : Chapter → List (Position × Chapter)
  | ⟨name, content, number, subItems, path, sourcePath, parentNames⟩ =>
      traversal.arrange ([], ⟨name, content, number, subItems, path, sourcePath, parentNames⟩)
        (placesFrom traversal 0 subItems)

/-- The chapters in a list of items with their positions, where the items are numbered from `i`. -/
def placesFrom (traversal : Traversal) (i : Nat) : List Item → List (Position × Chapter)
  | [] => []
  | item :: items =>
      (item.places traversal).map (fun (position, page) => (i :: position, page)) ++
        placesFrom traversal (i + 1) items

end

/-- The chapters of a book with their positions. -/
def Book.places (traversal : Traversal) (book : Book) : List (Position × Chapter) :=
  placesFrom traversal 0 book.sections

section Places

variable {traversal : Traversal} {position : Position} {page : Chapter}

theorem mem_placesFrom_cons {i : Nat} {item : Item} {items : List Item} :
    (position, page) ∈ placesFrom traversal i (item :: items) ↔
      (∃ rest, position = i :: rest ∧ (rest, page) ∈ item.places traversal) ∨
        (position, page) ∈ placesFrom traversal (i + 1) items := by
  rw [placesFrom, List.mem_append, List.mem_map]
  refine or_congr_left ?_
  constructor
  · rintro ⟨⟨rest, other⟩, hmem, heq⟩
    obtain ⟨rfl, rfl⟩ := Prod.mk.inj heq
    exact ⟨rest, rfl, hmem⟩
  · rintro ⟨rest, rfl, hmem⟩
    exact ⟨(rest, page), hmem, rfl⟩

mutual

theorem Item.mem_places_iff (item : Item) {position : Position} :
    (position, page) ∈ item.places traversal ↔ item.chapterAt? position = some page := by
  match item with
  | .chapter chapter =>
      rw [Item.places, Item.chapterAt?_chapter]
      exact chapter.mem_places_iff
  | .separator => cases position <;> simp [Item.places, Item.chapterAt?, Item.chapter?]
  | .partTitle _ => cases position <;> simp [Item.places, Item.chapterAt?, Item.chapter?]

theorem Chapter.mem_places_iff (chapter : Chapter) {position : Position} :
    (position, page) ∈ chapter.places traversal ↔
      (if position = [] then some chapter else chapterAmong? chapter.subItems position) =
        some page := by
  match chapter with
  | ⟨name, content, number, subItems, path, sourcePath, parentNames⟩ =>
      rw [Chapter.places, Traversal.mem_arrange, mem_placesFrom_iff subItems]
      cases position with
      | nil => simp [eq_comm]
      | cons i rest => simp [chapterAmong?, Option.bind_eq_some_iff]

theorem mem_placesFrom_iff (items : List Item) {i : Nat} {position : Position} :
    (position, page) ∈ placesFrom traversal i items ↔
      ∃ j rest item, position = (i + j) :: rest ∧ items[j]? = some item ∧
        item.chapterAt? rest = some page := by
  match items with
  | [] => simp [placesFrom]
  | item :: items =>
      rw [mem_placesFrom_cons, mem_placesFrom_iff items]
      constructor
      · rintro (⟨rest, rfl, hmem⟩ | ⟨j, rest, other, rfl, hget, hat⟩)
        · exact ⟨0, rest, item, rfl, rfl, item.mem_places_iff.mp hmem⟩
        · exact ⟨j + 1, rest, other, by rw [Nat.add_right_comm, Nat.add_assoc], hget, hat⟩
      · rintro ⟨j, rest, other, rfl, hget, hat⟩
        cases j with
        | zero =>
            cases hget
            exact Or.inl ⟨rest, rfl, item.mem_places_iff.mpr hat⟩
        | succ j =>
            exact Or.inr ⟨j, rest, other, by rw [Nat.add_right_comm, Nat.add_assoc], hget, hat⟩

end

/-- The places of a book are those of its chapters. -/
theorem Book.mem_places_iff (book : Book) :
    (position, page) ∈ book.places traversal ↔ book.chapterAt? position = some page := by
  rw [Book.places, mem_placesFrom_iff, Book.chapterAt?]
  cases position with
  | nil => simp [chapterAmong?]
  | cons i rest => simp [chapterAmong?, Option.bind_eq_some_iff]

/-- The list has every position of a chapter of the book, sorted. -/
structure Book.IsEnumeration (book : Book) (traversal : Traversal) (positions : List Position) :
    Prop where
  complete : ∀ position, position ∈ positions ↔ ∃ page, book.chapterAt? position = some page
  sorted : positions.Pairwise (Position.Before traversal)

theorem Book.IsEnumeration.nodup {book : Book} {positions : List Position}
    (h : book.IsEnumeration traversal positions) : positions.Nodup := by
  apply h.sorted.imp
  rintro position other hbefore rfl
  exact hbefore.asymm hbefore

/-- Books with chapters at the same positions have one enumeration. -/
theorem Book.IsEnumeration.unique {book other : Book} {positions others : List Position}
    (h : book.IsEnumeration traversal positions) (hother : other.IsEnumeration traversal others)
    (hsame : ∀ position, (∃ page, book.chapterAt? position = some page) ↔
      ∃ page, other.chapterAt? position = some page) : positions = others := by
  have hperm : positions.Perm others := by
    apply (List.perm_ext_iff_of_nodup h.nodup hother.nodup).mpr
    intro position
    rw [h.complete, hother.complete, hsame]
  apply hperm.eq_of_pairwise _ h.sorted hother.sorted
  intro p q _ _ hpq hqp
  exact absurd hqp hpq.asymm

theorem exists_cons_of_mem_placesFrom {items : List Item} {i : Nat} {position : Position}
    (h : position ∈ (placesFrom traversal i items).map Prod.fst) :
    ∃ j rest, i ≤ j ∧ position = j :: rest := by
  obtain ⟨⟨position, page⟩, hmem, rfl⟩ := List.mem_map.mp h
  obtain ⟨j, rest, -, rfl, -⟩ := (mem_placesFrom_iff items).mp hmem
  exact ⟨i + j, rest, Nat.le_add_right i j, rfl⟩

theorem Traversal.arrange_sorted {page : Chapter} {inner : List (Position × Chapter)}
    (hinner : (inner.map Prod.fst).Pairwise (Position.Before traversal))
    (hcons : ∀ position ∈ inner.map Prod.fst, ∃ i rest, position = i :: rest) :
    ((traversal.arrange ([], page) inner).map Prod.fst).Pairwise (Position.Before traversal) := by
  cases traversal with
  | outsideIn =>
      rw [arrange, List.map_cons, List.pairwise_cons]
      refine ⟨?_, hinner⟩
      intro position hmem
      obtain ⟨i, rest, rfl⟩ := hcons position hmem
      exact .outer i rest
  | insideOut =>
      rw [arrange, List.map_append, List.pairwise_append]
      refine ⟨hinner, List.pairwise_singleton _ _, ?_⟩
      intro position hmem other hother
      obtain ⟨i, rest, rfl⟩ := hcons position hmem
      obtain rfl : other = [] := by simpa using hother
      exact .inner i rest

mutual

theorem Item.places_sorted (item : Item) :
    ((item.places traversal).map Prod.fst).Pairwise (Position.Before traversal) := by
  match item with
  | .chapter page => exact page.places_sorted
  | .separator => exact List.Pairwise.nil
  | .partTitle _ => exact List.Pairwise.nil

theorem Chapter.places_sorted (chapter : Chapter) :
    ((chapter.places traversal).map Prod.fst).Pairwise (Position.Before traversal) := by
  match chapter with
  | ⟨name, content, number, subItems, path, sourcePath, parentNames⟩ =>
      apply Traversal.arrange_sorted (placesFrom_sorted subItems 0)
      intro position hmem
      obtain ⟨i, rest, -, rfl⟩ := exists_cons_of_mem_placesFrom hmem
      exact ⟨i, rest, rfl⟩

theorem placesFrom_sorted (items : List Item) (i : Nat) :
    ((placesFrom traversal i items).map Prod.fst).Pairwise (Position.Before traversal) := by
  match items with
  | [] => exact List.Pairwise.nil
  | item :: items =>
      rw [placesFrom, List.map_append, List.pairwise_append]
      refine ⟨?_, placesFrom_sorted items (i + 1), ?_⟩
      · have hitem := item.places_sorted.map (i :: ·) fun _ _ => Position.Before.under i
        rw [List.map_map] at hitem ⊢
        exact hitem
      · intro position hmem other hother
        obtain ⟨j, rest, hij, rfl⟩ := exists_cons_of_mem_placesFrom hother
        simp only [List.map_map, List.mem_map] at hmem
        obtain ⟨place, -, rfl⟩ := hmem
        exact .left hij _ _

end

theorem Book.isEnumeration_places (book : Book) (traversal : Traversal) :
    book.IsEnumeration traversal ((book.places traversal).map Prod.fst) where
  complete position := by simp [book.mem_places_iff]
  sorted := placesFrom_sorted book.sections 0

end Places

section Reading

mutual

/-- In reading order the places are those of the chapters in the flattened book. -/
theorem Item.map_snd_places (item : Item) :
    (item.places .outsideIn).map Prod.snd = item.flatten.filterMap Item.chapter? := by
  match item with
  | .chapter page => exact page.map_snd_places
  | .separator => rfl
  | .partTitle _ => rfl

theorem Chapter.map_snd_places (chapter : Chapter) :
    (chapter.places .outsideIn).map Prod.snd =
      (Item.chapter chapter).flatten.filterMap Item.chapter? := by
  match chapter with
  | ⟨name, content, number, subItems, path, sourcePath, parentNames⟩ =>
      exact congrArg (List.cons _) (map_snd_placesFrom subItems 0)

theorem map_snd_placesFrom (items : List Item) (i : Nat) :
    (placesFrom .outsideIn i items).map Prod.snd =
      (flattenItems items).filterMap Item.chapter? := by
  match items with
  | [] => rfl
  | item :: items =>
      rw [placesFrom, flattenItems, List.map_append, List.filterMap_append,
        map_snd_placesFrom items (i + 1), ← item.map_snd_places, List.map_map]
      rfl

end

theorem Book.chapters_eq_places (book : Book) :
    book.chapters = (book.places .outsideIn).map Prod.snd :=
  (map_snd_placesFrom book.sections 0).symm

/-- The source files of a book are those of its chapters in reading order. -/
theorem Book.sourcePaths_eq_filterMap (book : Book) :
    book.sourcePaths = ((book.places .outsideIn).map Prod.fst).filterMap fun position =>
      (book.chapterAt? position).bind Chapter.sourcePath := by
  rw [Book.sourcePaths, book.chapters_eq_places, List.filterMap_map, List.filterMap_map]
  apply List.filterMap_congr
  rintro ⟨position, page⟩ hmem
  simp [book.mem_places_iff.mp hmem]

end Reading

end BookFilter
