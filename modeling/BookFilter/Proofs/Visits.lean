import BookFilter.Proofs.Isolation

/-!
# The visits of a walk

A walk visits the chapters of a book one after the other, from the inside out, each with its
sub-items as they are left by then and in the state that the visit before it left. The first visit
that fails is the last one. A chapter that was visited is left as its visit made it, and every other
one keeps its own fields; nothing else in the book is touched. The same comes of going over the
whole book without a stop, as long as nothing is done any more after a failure.
-/

namespace BookFilter

variable {σ ε τ : Type}

/-- One visit: where it was made, the chapter and the state that it was given, and what came of
it. -/
structure Visited (σ ε : Type) where
  position : Position
  page : Chapter
  before : σ
  result : Walked σ ε Chapter

/-- The visit as it is seen from the items around the one with this number. -/
def Visited.under (i : Nat) (visited : Visited σ ε) : Visited σ ε :=
  { visited with position := i :: visited.position }

/-- The visits are made one after the other, each in the state that the one before it left, up to
the first one that fails. -/
inductive IsRun (visit : Visit σ ε) : σ → List (Visited σ ε) → σ → Option ε → Prop
  | done (state : σ) : IsRun visit state [] state none
  | failed {failure : ε} (position : Position) (page : Chapter) (state : σ)
      (h : (visit page state).failure = some failure) :
      IsRun visit state [⟨position, page, state, visit page state⟩] (visit page state).state
        (some failure)
  | next {visits : List (Visited σ ε)} {final : σ} {failure : Option ε} (position : Position)
      (page : Chapter) (state : σ) (h : (visit page state).failure = none)
      (hrest : IsRun visit (visit page state).state visits final failure) :
      IsRun visit state (⟨position, page, state, visit page state⟩ :: visits) final failure

namespace IsRun

variable {visit : Visit σ ε} {state middle final : σ} {visits others : List (Visited σ ε)}
  {failure : Option ε}

theorem single (visit : Visit σ ε) (position : Position) (page : Chapter) (state : σ) :
    IsRun visit state [⟨position, page, state, visit page state⟩] (visit page state).state
      (visit page state).failure := by
  cases h : (visit page state).failure with
  | some failure => exact .failed position page state h
  | none => exact .next position page state h (.done _)

theorem append (h : IsRun visit state visits middle none)
    (hothers : IsRun visit middle others final failure) :
    IsRun visit state (visits ++ others) final failure := by
  generalize hnone : (none : Option ε) = stop at h
  induction h with
  | done state => exact hothers
  | failed position page state hfailed => cases hnone
  | next position page state hnext _ ih => exact .next position page state hnext (ih hothers hnone)

/-- Without a visit nothing fails. -/
theorem ne_nil {stop : ε} (h : IsRun visit state visits final (some stop)) : visits ≠ [] := by
  cases h with
  | failed => exact List.cons_ne_nil _ _
  | next => exact List.cons_ne_nil _ _

theorem under (h : IsRun visit state visits final failure) (i : Nat) :
    IsRun visit state (visits.map (Visited.under i)) final failure := by
  induction h with
  | done state => exact .done state
  | failed position page state hfailed => exact .failed (i :: position) page state hfailed
  | next position page state hnext _ ih => exact .next (i :: position) page state hnext ih

end IsRun

mutual

/-- The visits of a walk over an item. -/
def Item.visits (visit : Visit σ ε) : Item → σ → List (Visited σ ε)
  | .chapter page, state => page.visits visit state
  | .separator, _ => []
  | .partTitle _, _ => []

/-- The visits of a walk over what a chapter holds and, if none of them fails, that of the chapter
itself. -/
def Chapter.visits (visit : Visit σ ε) : Chapter → σ → List (Visited σ ε)
  | ⟨name, content, number, subItems, path, sourcePath, parentNames⟩, state =>
      let walked := walkItems visit subItems state
      let page := ⟨name, content, number, walked.value, path, sourcePath, parentNames⟩
      visitsFrom visit 0 subItems state ++
        match walked.failure with
        | some _ => []
        | none => [⟨[], page, walked.state, visit page walked.state⟩]

/-- The visits of a walk over items that are numbered from `i`. -/
def visitsFrom (visit : Visit σ ε) (i : Nat) : List Item → σ → List (Visited σ ε)
  | [], _ => []
  | item :: items, state =>
      let first := item.walk visit state
      (item.visits visit state).map (Visited.under i) ++
        match first.failure with
        | some _ => []
        | none => visitsFrom visit (i + 1) items first.state

end

section Run

variable {visit : Visit σ ε}

mutual

theorem Item.isRun_visits (item : Item) (state : σ) :
    IsRun visit state (item.visits visit state) (item.walk visit state).state
      (item.walk visit state).failure := by
  match item with
  | .chapter page => exact page.isRun_visits state
  | .separator => exact .done state
  | .partTitle _ => exact .done state

theorem Chapter.isRun_visits (chapter : Chapter) (state : σ) :
    IsRun visit state (chapter.visits visit state) (chapter.walk visit state).state
      (chapter.walk visit state).failure := by
  match chapter with
  | ⟨name, content, number, subItems, path, sourcePath, parentNames⟩ =>
      have hinner := isRun_visitsFrom subItems 0 state
      rw [Chapter.visits, Chapter.walk]
      cases hfailure : (walkItems visit subItems state).failure with
      | some failure =>
          rw [hfailure] at hinner
          simpa only [hfailure, List.append_nil] using hinner
      | none =>
          rw [hfailure] at hinner
          simpa only [hfailure] using hinner.append (.single visit _ _ _)

theorem isRun_visitsFrom (items : List Item) (i : Nat) (state : σ) :
    IsRun visit state (visitsFrom visit i items state) (walkItems visit items state).state
      (walkItems visit items state).failure := by
  match items with
  | [] => exact .done state
  | item :: items =>
      have hfirst := (item.isRun_visits state).under i
      rw [visitsFrom, walkItems]
      cases hfailure : (item.walk visit state).failure with
      | some failure =>
          rw [hfailure] at hfirst
          simpa only [hfailure, List.append_nil] using hfirst
      | none =>
          rw [hfailure] at hfirst
          simpa only [hfailure] using hfirst.append (isRun_visitsFrom items (i + 1) _)

end

mutual

/-- The visits are made at the positions from the inside out, and at all of them unless one
fails. -/
theorem Item.exists_append_positions (item : Item) (state : σ) :
    ∃ rest, (item.visits visit state).map Visited.position ++ rest =
        (item.places .insideOut).map Prod.fst ∧
      ((item.walk visit state).failure = none → rest = []) := by
  match item with
  | .chapter page => exact page.exists_append_positions state
  | .separator => exact ⟨[], rfl, fun _ => rfl⟩
  | .partTitle _ => exact ⟨[], rfl, fun _ => rfl⟩

theorem Chapter.exists_append_positions (chapter : Chapter) (state : σ) :
    ∃ rest, (chapter.visits visit state).map Visited.position ++ rest =
        (chapter.places .insideOut).map Prod.fst ∧
      ((chapter.walk visit state).failure = none → rest = []) := by
  match chapter with
  | ⟨name, content, number, subItems, path, sourcePath, parentNames⟩ =>
      obtain ⟨rest, happ, hrest⟩ := exists_append_positionsFrom subItems 0 state
      rw [Chapter.visits, Chapter.walk, Chapter.places, Traversal.arrange, List.map_append,
        List.map_append, ← happ]
      cases hfailure : (walkItems visit subItems state).failure with
      | some failure => exact ⟨rest ++ [[]], by simp, fun h => by cases h⟩
      | none => exact ⟨[], by simp [hrest hfailure], fun _ => rfl⟩

theorem exists_append_positionsFrom (items : List Item) (i : Nat) (state : σ) :
    ∃ rest, (visitsFrom visit i items state).map Visited.position ++ rest =
        (placesFrom .insideOut i items).map Prod.fst ∧
      ((walkItems visit items state).failure = none → rest = []) := by
  match items with
  | [] => exact ⟨[], rfl, fun _ => rfl⟩
  | item :: items =>
      obtain ⟨rest, happ, hrest⟩ := item.exists_append_positions state
      have hunder : ((item.places .insideOut).map fun (position, page) =>
          (i :: position, page)).map Prod.fst =
            ((item.visits visit state).map (Visited.under i)).map Visited.position ++
              rest.map (i :: ·) := by
        have hmap := congrArg (List.map (i :: ·)) happ
        rw [List.map_append, List.map_map, List.map_map] at hmap
        rw [List.map_map, List.map_map]
        exact hmap.symm
      rw [visitsFrom, walkItems, placesFrom, List.map_append, List.map_append, hunder]
      cases hfailure : (item.walk visit state).failure with
      | some failure =>
          exact ⟨rest.map (i :: ·) ++ (placesFrom .insideOut (i + 1) items).map Prod.fst,
            by simp, fun h => by cases h⟩
      | none =>
          obtain ⟨others, hothers, hnone⟩ :=
            exists_append_positionsFrom items (i + 1) (item.walk visit state).state
          refine ⟨others, ?_, hnone⟩
          rw [← hothers, hrest hfailure]
          simp

end

end Run

/-- What stands at a position among items that are numbered from `i`. -/
def chapterFrom? (i : Nat) (items : List Item) : Position → Option Chapter
  | [] => none
  | k :: rest => if k < i then none else chapterAmong? items ((k - i) :: rest)

theorem chapterFrom?_zero (items : List Item) : chapterFrom? 0 items = chapterAmong? items := by
  funext position
  cases position <;> rfl

theorem chapterFrom?_self (i : Nat) (item : Item) (items : List Item) (rest : Position) :
    chapterFrom? i (item :: items) (i :: rest) = item.chapterAt? rest := by
  simp [chapterFrom?, chapterAmong?]

theorem chapterFrom?_cons {i : Nat} {position : Position} (h : position.head? ≠ some i)
    (item : Item) (items : List Item) :
    chapterFrom? i (item :: items) position = chapterFrom? (i + 1) items position := by
  cases position with
  | nil => rfl
  | cons k rest =>
      have hk : k ≠ i := by simpa using h
      by_cases hlt : k < i
      · rw [chapterFrom?, chapterFrom?, if_pos hlt, if_pos (by omega)]
      · obtain ⟨j, rfl⟩ : ∃ j, k = i + 1 + j := ⟨k - (i + 1), by omega⟩
        rw [chapterFrom?, chapterFrom?, if_neg hlt, if_neg (by omega),
          show i + 1 + j - i = j + 1 by omega, show i + 1 + j - (i + 1) = j by omega]
        rfl

theorem head?_ne_of_chapterFrom? {i : Nat} {items : List Item} {position : Position}
    {page : Chapter} (h : chapterFrom? (i + 1) items position = some page) : position.head? ≠ some i := by
  rintro hhead
  obtain ⟨rest, rfl⟩ : ∃ rest, position = i :: rest := by
    simpa [List.head?_eq_some_iff] using hhead
  simp [chapterFrom?] at h

/-- The chapter has the fields of the other one, but perhaps not its sub-items. -/
def Chapter.SameFields (page done : Chapter) : Prop :=
  done = page.withSubItems done.subItems

theorem Chapter.SameFields.refl (page : Chapter) : page.SameFields page := by
  cases page
  rfl

/-- What the visits say of the chapters by position, before and after them. -/
structure Accounts (visits : List (Visited σ ε)) (before after : Position → Option Chapter) :
    Prop where
  visited : ∀ visit ∈ visits, ∃ page, before visit.position = some page ∧
    after visit.position = some visit.result.value ∧
    visit.page = page.withSubItems visit.result.value.subItems
  unvisited : ∀ position, position ∉ visits.map Visited.position →
    Option.Rel Chapter.SameFields (before position) (after position)
  untouched : ∀ position, (∀ visit ∈ visits, ¬ position <+: visit.position) →
    after position = before position

namespace Accounts

variable {visits others : List (Visited σ ε)} {before after : Position → Option Chapter}

theorem nil (before : Position → Option Chapter) : Accounts (σ := σ) (ε := ε) [] before before where
  visited _ h := nomatch h
  unvisited position _ := by
    cases before position with
    | none => exact .none
    | some page => exact .some (.refl page)
  untouched _ _ := rfl

/-- The visits in an item, then those in the items after it. -/
theorem cons {i : Nat} {item done : Item} {items rest : List Item}
    (hitem : Accounts visits item.chapterAt? done.chapterAt?)
    (hitems : Accounts others (chapterFrom? (i + 1) items) (chapterFrom? (i + 1) rest)) :
    Accounts (visits.map (Visited.under i) ++ others) (chapterFrom? i (item :: items))
      (chapterFrom? i (done :: rest)) := by
  constructor
  · intro visit hvisit
    rcases List.mem_append.mp hvisit with hvisit | hvisit
    · obtain ⟨inner, hinner, rfl⟩ := List.mem_map.mp hvisit
      simpa only [Visited.under, chapterFrom?_self] using hitem.visited inner hinner
    · obtain ⟨page, hpage, hdone, heq⟩ := hitems.visited visit hvisit
      have hhead := head?_ne_of_chapterFrom? hpage
      exact ⟨page, by rw [chapterFrom?_cons hhead, hpage], by rw [chapterFrom?_cons hhead, hdone],
        heq⟩
  · intro position hposition
    rw [List.map_append, List.mem_append, not_or] at hposition
    by_cases hhead : position.head? = some i
    · obtain ⟨rest, rfl⟩ : ∃ rest, position = i :: rest := by
        simpa [List.head?_eq_some_iff] using hhead
      rw [chapterFrom?_self, chapterFrom?_self]
      apply hitem.unvisited
      intro hmem
      apply hposition.1
      obtain ⟨inner, hinner, rfl⟩ := List.mem_map.mp hmem
      exact List.mem_map.mpr ⟨_, List.mem_map_of_mem hinner, rfl⟩
    · rw [chapterFrom?_cons hhead, chapterFrom?_cons hhead]
      exact hitems.unvisited position hposition.2
  · intro position hposition
    rw [List.forall_mem_append] at hposition
    by_cases hhead : position.head? = some i
    · obtain ⟨rest, rfl⟩ : ∃ rest, position = i :: rest := by
        simpa [List.head?_eq_some_iff] using hhead
      rw [chapterFrom?_self, chapterFrom?_self]
      apply hitem.untouched
      intro inner hinner hprefix
      exact hposition.1 _ (List.mem_map_of_mem hinner) (List.cons_prefix_cons.mpr ⟨rfl, hprefix⟩)
    · rw [chapterFrom?_cons hhead, chapterFrom?_cons hhead]
      exact hitems.untouched position hposition.2

variable {page done : Chapter}

theorem visited_of_mem
    (h : Accounts visits (chapterAmong? page.subItems) (chapterAmong? done.subItems))
    {visit : Visited σ ε} (hvisit : visit ∈ visits) :
    ∃ inner, (Item.chapter page).chapterAt? visit.position = some inner ∧
      (Item.chapter done).chapterAt? visit.position = some visit.result.value ∧
      visit.page = inner.withSubItems visit.result.value.subItems := by
  obtain ⟨inner, hpage, hdone, heq⟩ := h.visited visit hvisit
  have hne : visit.position ≠ [] := by
    intro hnil
    rw [hnil] at hpage
    cases hpage
  refine ⟨inner, ?_, ?_, heq⟩
  · rw [Item.chapterAt?_chapter, if_neg hne, hpage]
  · rw [Item.chapterAt?_chapter, if_neg hne, hdone]

/-- The visits in a chapter whose own turn does not come. -/
theorem inner (h : Accounts visits (chapterAmong? page.subItems) (chapterAmong? done.subItems))
    (hsame : page.SameFields done) (hne : visits ≠ []) :
    Accounts visits (Item.chapter page).chapterAt? (Item.chapter done).chapterAt? where
  visited _ hvisit := h.visited_of_mem hvisit
  unvisited position hposition := by
    rw [Item.chapterAt?_chapter, Item.chapterAt?_chapter]
    by_cases hnil : position = []
    · rw [if_pos hnil, if_pos hnil]
      exact .some hsame
    · rw [if_neg hnil, if_neg hnil]
      exact h.unvisited position hposition
  untouched position hposition := by
    have hnil : position ≠ [] := by
      rintro rfl
      obtain ⟨visit, hvisit⟩ := List.exists_mem_of_ne_nil visits hne
      exact hposition visit hvisit List.nil_prefix
    rw [Item.chapterAt?_chapter, Item.chapterAt?_chapter, if_neg hnil, if_neg hnil]
    exact h.untouched position hposition

/-- The visits in a chapter, then that of the chapter itself. -/
theorem outer {before : σ} {result : Walked σ ε Chapter}
    (h : Accounts visits (chapterAmong? page.subItems) (chapterAmong? result.value.subItems)) :
    Accounts (visits ++ [⟨[], page.withSubItems result.value.subItems, before, result⟩])
      (Item.chapter page).chapterAt? (Item.chapter result.value).chapterAt? where
  visited visit hvisit := by
    rcases List.mem_append.mp hvisit with hvisit | hvisit
    · exact h.visited_of_mem hvisit
    · obtain rfl := List.mem_singleton.mp hvisit
      exact ⟨page, rfl, rfl, rfl⟩
  unvisited position hposition := by
    rw [List.map_append, List.mem_append, not_or] at hposition
    have hne : position ≠ [] := by simpa using hposition.2
    rw [Item.chapterAt?_chapter, Item.chapterAt?_chapter, if_neg hne, if_neg hne]
    exact h.unvisited position hposition.1
  untouched position hposition := by
    rw [List.forall_mem_append] at hposition
    have hne : position ≠ [] := by
      rintro rfl
      exact hposition.2 _ (List.mem_singleton_self _) List.nil_prefix
    rw [Item.chapterAt?_chapter, Item.chapterAt?_chapter, if_neg hne, if_neg hne]
    exact h.untouched position hposition.1

end Accounts

/-- The visit leaves the sub-items of every chapter alone. -/
def Visit.KeepsSubItems (visit : Visit σ ε) : Prop :=
  ∀ page state, (visit page state).value.subItems = page.subItems

section Accounts

variable {visit : Visit σ ε}

mutual

theorem Item.accounts_visits (h : visit.KeepsSubItems) (item : Item) (state : σ) :
    Accounts (item.visits visit state) item.chapterAt?
      (item.walk visit state).value.chapterAt? := by
  match item with
  | .chapter page => exact page.accounts_visits h state
  | .separator => exact .nil _
  | .partTitle _ => exact .nil _

theorem Chapter.accounts_visits (h : visit.KeepsSubItems) (chapter : Chapter) (state : σ) :
    Accounts (chapter.visits visit state) (Item.chapter chapter).chapterAt?
      (Item.chapter (chapter.walk visit state).value).chapterAt? := by
  match chapter with
  | ⟨name, content, number, subItems, path, sourcePath, parentNames⟩ =>
      have hinner := accounts_visitsFrom h subItems 0 state
      have hrun : IsRun visit state _ _ _ := isRun_visitsFrom subItems 0 state
      rw [chapterFrom?_zero, chapterFrom?_zero] at hinner
      rw [Chapter.visits, Chapter.walk]
      generalize walkItems visit subItems state = walked at hinner hrun ⊢
      let page : Chapter := ⟨name, content, number, subItems, path, sourcePath, parentNames⟩
      cases hfailure : walked.failure with
      | some failure =>
          rw [hfailure] at hrun
          simp only [List.append_nil]
          exact Accounts.inner hinner rfl hrun.ne_nil
      | none =>
          have hkept : (visit (page.withSubItems walked.value) walked.state).value.subItems =
            walked.value := h _ _
          rw [← hkept] at hinner
          have houter : Accounts (_ ++ [⟨[], page.withSubItems _, walked.state, _⟩])
            (Item.chapter page).chapterAt? _ := Accounts.outer hinner
          rw [hkept] at houter
          exact houter

theorem accounts_visitsFrom (h : visit.KeepsSubItems) (items : List Item) (i : Nat) (state : σ) :
    Accounts (visitsFrom visit i items state) (chapterFrom? i items)
      (chapterFrom? i (walkItems visit items state).value) := by
  match items with
  | [] => exact .nil _
  | item :: items =>
      have hitem := item.accounts_visits h state
      rw [visitsFrom, walkItems]
      cases hfailure : (item.walk visit state).failure with
      | some failure => exact hitem.cons (.nil _)
      | none => exact hitem.cons (accounts_visitsFrom h items (i + 1) _)

end

end Accounts

/-- A chapter with nothing but its sub-items. -/
def Chapter.bare (page : Chapter) : Chapter :=
  ⟨"", "", none, page.subItems, none, none, []⟩

/-- A book with nothing in its chapters but their sub-items. -/
def Book.outline (book : Book) : Book :=
  book.mapInsideOut Chapter.bare

theorem Chapter.mapInsideOut_bare (page : Chapter) :
    page.mapInsideOut bare =
      ⟨"", "", none, mapItemsInsideOut bare page.subItems, none, none, []⟩ := by
  cases page
  rfl

section Outline

variable {visit : Visit σ ε}

mutual

theorem Item.outline_walk (h : visit.KeepsSubItems) (item : Item) (state : σ) :
    (item.walk visit state).value.mapInsideOut Chapter.bare = item.mapInsideOut Chapter.bare := by
  match item with
  | .chapter page => exact congrArg Item.chapter (page.outline_walk h state)
  | .separator => rfl
  | .partTitle _ => rfl

theorem Chapter.outline_walk (h : visit.KeepsSubItems) (chapter : Chapter) (state : σ) :
    (chapter.walk visit state).value.mapInsideOut Chapter.bare =
      chapter.mapInsideOut Chapter.bare := by
  match chapter with
  | ⟨name, content, number, subItems, path, sourcePath, parentNames⟩ =>
      have hinner := outline_walkItems h subItems state
      rw [Chapter.mapInsideOut_bare, Chapter.mapInsideOut_bare, ← hinner, Chapter.walk]
      cases (walkItems visit subItems state).failure with
      | some failure => rfl
      | none => rw [h]

theorem outline_walkItems (h : visit.KeepsSubItems) (items : List Item) (state : σ) :
    mapItemsInsideOut Chapter.bare (walkItems visit items state).value =
      mapItemsInsideOut Chapter.bare items := by
  match items with
  | [] => rfl
  | item :: items =>
      rw [walkItems, mapItemsInsideOut, ← item.outline_walk h state]
      cases (item.walk visit state).failure with
      | some failure => rfl
      | none =>
          rw [← outline_walkItems h items (item.walk visit state).state]
          rfl

end

end Outline

mutual

/-- Goes over what an item holds and then does something at the item itself. -/
def Item.forEach (act : Item → τ → Item × τ) : Item → τ → Item × τ
  | .chapter page, state =>
      let inner := page.forEach act state
      act (.chapter inner.1) inner.2
  | .separator, state => act .separator state
  | .partTitle title, state => act (.partTitle title) state

/-- Goes over what a chapter holds. -/
def Chapter.forEach (act : Item → τ → Item × τ) : Chapter → τ → Chapter × τ
  | ⟨name, content, number, subItems, path, sourcePath, parentNames⟩, state =>
      let inner := forEachItem act subItems state
      (⟨name, content, number, inner.1, path, sourcePath, parentNames⟩, inner.2)

/-- Goes over items from the left, over all of them. -/
def forEachItem (act : Item → τ → Item × τ) : List Item → τ → List Item × τ
  | [], state => ([], state)
  | item :: items, state =>
      let first := item.forEach act state
      let others := forEachItem act items first.2
      (first.1 :: others.1, others.2)

end

/-- Goes over all items of a book, with no way to stop. -/
def Book.forEach (act : Item → τ → Item × τ) (book : Book) (state : τ) : Book × τ :=
  let done := forEachItem act book.sections state
  (⟨done.1⟩, done.2)

/-- What is done at an item where a visit cannot stop what goes on: chapters are visited until a
visit fails, and nothing is done after that. -/
def Visit.guarded (visit : Visit σ ε) : Item → σ × Option ε → Item × (σ × Option ε)
  | .chapter page, (state, none) =>
      let visited := visit page state
      (.chapter visited.value, visited.state, visited.failure)
  | item, state => (item, state)

section Guarded

variable {visit : Visit σ ε}

mutual

theorem Item.forEach_of_failure (item : Item) (state : σ) (failure : ε) :
    item.forEach visit.guarded (state, some failure) = (item, state, some failure) := by
  match item with
  | .chapter page =>
      rw [Item.forEach, page.forEach_of_failure state failure]
      rfl
  | .separator => rfl
  | .partTitle _ => rfl

theorem Chapter.forEach_of_failure (chapter : Chapter) (state : σ) (failure : ε) :
    chapter.forEach visit.guarded (state, some failure) = (chapter, state, some failure) := by
  match chapter with
  | ⟨name, content, number, subItems, path, sourcePath, parentNames⟩ =>
      rw [Chapter.forEach, forEachItem_of_failure subItems state failure]

theorem forEachItem_of_failure (items : List Item) (state : σ) (failure : ε) :
    forEachItem visit.guarded items (state, some failure) = (items, state, some failure) := by
  match items with
  | [] => rfl
  | item :: items =>
      rw [forEachItem, item.forEach_of_failure state failure,
        forEachItem_of_failure items state failure]

end

mutual

/-- Doing nothing after a failure comes to the same as stopping there. -/
theorem Item.forEach_guarded (item : Item) (state : σ) :
    item.forEach visit.guarded (state, none) =
      ((item.walk visit state).value, (item.walk visit state).state,
        (item.walk visit state).failure) := by
  match item with
  | .chapter page => exact page.forEach_guarded state
  | .separator => rfl
  | .partTitle _ => rfl

theorem Chapter.forEach_guarded (chapter : Chapter) (state : σ) :
    visit.guarded (.chapter (chapter.forEach visit.guarded (state, none)).1)
        (chapter.forEach visit.guarded (state, none)).2 =
      (.chapter (chapter.walk visit state).value, (chapter.walk visit state).state,
        (chapter.walk visit state).failure) := by
  match chapter with
  | ⟨name, content, number, subItems, path, sourcePath, parentNames⟩ =>
      rw [Chapter.forEach, forEachItem_guarded subItems state, Chapter.walk]
      cases hfailure : (walkItems visit subItems state).failure with
      | some failure => rfl
      | none => rfl

theorem forEachItem_guarded (items : List Item) (state : σ) :
    forEachItem visit.guarded items (state, none) =
      ((walkItems visit items state).value, (walkItems visit items state).state,
        (walkItems visit items state).failure) := by
  match items with
  | [] => rfl
  | item :: items =>
      rw [forEachItem, item.forEach_guarded state, walkItems]
      cases hfailure : (item.walk visit state).failure with
      | some failure =>
          simp only
          rw [forEachItem_of_failure items]
      | none =>
          simp only
          rw [forEachItem_guarded items]

end

end Guarded

/-- The visits are those of a walk over a book that came to the given end. -/
structure Book.IsWalkedBy (book : Book) (visit : Visit σ ε) (state : σ)
    (visits : List (Visited σ ε)) (walked : Walked σ ε Book) : Prop where
  /-- Every visit but the last is without a failure, and the walk ends with that of the last. -/
  run : IsRun visit state visits walked.state walked.failure
  /-- The chapters are visited from the inside out, and all of them unless a visit fails. -/
  in_order : ∃ positions, book.IsEnumeration .insideOut positions ∧
    visits.map Visited.position <+: positions ∧
    (walked.failure = none → visits.map Visited.position = positions)
  /-- A visited chapter was as before but for its sub-items, and is left as the visit made it. -/
  visited : ∀ visit ∈ visits, ∃ page, book.chapterAt? visit.position = some page ∧
    walked.value.chapterAt? visit.position = some visit.result.value ∧
    visit.page = page.withSubItems visit.result.value.subItems
  /-- Any other chapter keeps its fields. -/
  unvisited : ∀ position, position ∉ visits.map Visited.position →
    Option.Rel Chapter.SameFields (book.chapterAt? position) (walked.value.chapterAt? position)
  /-- A chapter in which nothing was visited stays as it is as a whole. -/
  untouched : ∀ position, (∀ visit ∈ visits, ¬ position <+: visit.position) →
    walked.value.chapterAt? position = book.chapterAt? position
  /-- Separators, part titles and the places of chapters stay as they are. -/
  outline_eq : walked.value.outline = book.outline

/-- A walk with a visit that leaves sub-items alone visits the chapters from the inside out, up to
the first visit that fails, and changes nothing but the visited chapters. Going over all items
without a stop comes to the same if nothing is done after a failure. -/
theorem Book.exists_isWalkedBy_walk (book : Book) (visit : Visit σ ε) (h : visit.KeepsSubItems)
    (state : σ) :
    (∃ visits, book.IsWalkedBy visit state visits (book.walk visit state)) ∧
      book.forEach visit.guarded (state, none) =
        ((book.walk visit state).value, (book.walk visit state).state,
          (book.walk visit state).failure) := by
  obtain ⟨rest, happ, hrest⟩ := exists_append_positionsFrom book.sections 0 state
  have haccounts := accounts_visitsFrom h book.sections 0 state
  rw [chapterFrom?_zero, chapterFrom?_zero] at haccounts
  refine ⟨⟨visitsFrom visit 0 book.sections state, ?_⟩, ?_⟩
  · refine ⟨isRun_visitsFrom book.sections 0 state,
      ⟨_, book.isEnumeration_places .insideOut, ⟨rest, happ⟩, ?_⟩, haccounts.visited,
      haccounts.unvisited, haccounts.untouched,
      congrArg Book.mk (outline_walkItems h book.sections state)⟩
    intro hfailure
    rw [hrest hfailure, List.append_nil] at happ
    exact happ
  · rw [Book.forEach, forEachItem_guarded book.sections state]
    rfl

/-- Marks and counts chapters, and fails at the one that is called `Keys`. -/
def Visit.marking : Visit Nat String := fun page count =>
  ⟨page.withContent (page.content ++ "!"), count + 1,
    if page.name = "Keys" then some "Keys" else none⟩

/-- The inner chapter is visited first, then the outer one fails, and the last one is not
visited. -/
theorem Book.exists_isWalkedBy_walk_marking :
    Visit.marking.KeepsSubItems ∧
      (∃ visits, Book.nested.IsWalkedBy Visit.marking 0 visits (Book.nested.walk Visit.marking 0)) ∧
      Book.nested.forEach Visit.marking.guarded (0, none) =
        ((Book.nested.walk Visit.marking 0).value, 2, some "Keys") ∧
      (Book.nested.walk Visit.marking 0).value.contentAt? [1, 0] = some "b,MUST-fail!" ∧
      (Book.nested.walk Visit.marking 0).value.contentAt? [1] = some "a,must-fail!" ∧
      (Book.nested.walk Visit.marking 0).value.contentAt? [2] = some "c" := by
  have hkeeps : Visit.marking.KeepsSubItems := fun _ _ => rfl
  obtain ⟨hvisits, hguarded⟩ := Book.exists_isWalkedBy_walk Book.nested Visit.marking hkeeps 0
  exact ⟨hkeeps, hvisits, hguarded, by decide +kernel, by decide +kernel, by decide +kernel⟩

end BookFilter
