import BookFilter.Book.Json
import BookFilter.Proofs.Json.Records

/-!
# Books read back from JSON

A book that is written as JSON is read back as it was, so long as there is room for the chapters in
it: each level of chapters takes three levels of arrays and objects. A book with more levels than
there is room for is never read, whatever it is written like.
-/

namespace BookFilter

mutual

/-- How many levels of chapters there are in an item. -/
def Item.depth : Item → Nat
  | .chapter page => page.depth
  | .separator => 0
  | .partTitle _ => 0

/-- How many levels of chapters there are in a chapter, itself included. -/
def Chapter.depth : Chapter → Nat
  | ⟨_, _, _, subItems, _, _, _⟩ => itemsDepth subItems + 1

/-- How many levels of chapters there are in items. -/
def itemsDepth : List Item → Nat
  | [] => 0
  | item :: items => max item.depth (itemsDepth items)

end

/-- How many levels of chapters there are in a book. -/
def Book.depth (book : Book) : Nat :=
  itemsDepth book.sections

namespace Json

theorem isSound_ofText? (text : Option String) : (ofText? text).isSound = true := by
  cases text <;> rfl

theorem isSound_ofSectionNumber (number : Option (List UInt32)) :
    (ofSectionNumber number).isSound = true := by
  cases number with
  | none => rfl
  | some parts =>
      apply isSound_array.mpr
      intro item hitem
      obtain ⟨part, -, rfl⟩ := List.mem_map.mp hitem
      rfl

end Json

mutual

theorem Item.isSound_toJson : ∀ item : Item, item.toJson.isSound = true
  | .separator => rfl
  | .partTitle _ => rfl
  | .chapter page => by
      apply Json.isSound_record.mpr
      intro field hfield
      rw [List.mem_singleton.mp hfield]
      exact page.isSound_toJson

theorem Chapter.isSound_toJson : ∀ chapter : Chapter, chapter.toJson.isSound = true
  | ⟨name, content, number, subItems, path, sourcePath, parentNames⟩ => by
      have hitems := isSound_itemsToJson subItems
      rw [Chapter.toJson, Json.isSound_record]
      simp [Json.isSound_array.mpr hitems, Json.isSound_ofSectionNumber, Json.isSound_ofText?,
        Json.isSound_texts, Json.isSound_text]

theorem isSound_itemsToJson : ∀ items : List Item, ∀ value ∈ itemsToJson items,
    value.isSound = true
  | [] => fun _ hvalue => nomatch hvalue
  | item :: items => by
      rw [itemsToJson, List.forall_mem_cons]
      exact ⟨item.isSound_toJson, isSound_itemsToJson items⟩

end

/-- A book is JSON throughout. -/
theorem Book.isSound_toJson (book : Book) : book.toJson.isSound = true := by
  have hitems := Json.isSound_array.mpr (isSound_itemsToJson book.sections)
  have hnull : Json.null.isSound = true := rfl
  rw [Book.toJson, Json.isSound_record]
  simp [hitems, hnull]

namespace Json

theorem toSectionPart_ofNat (part : UInt32) :
    toSectionPart (.number (.ofNat part.toNat)) = .ok part := by
  change (if part.toNat < UInt32.size then Except.ok (UInt32.ofNat part.toNat) else _) = _
  rw [if_pos part.toNat_lt_size, UInt32.ofNat_toNat]

theorem toSectionNumber_ofSectionNumber (room : Nat) (number : Option (List UInt32)) :
    (ofSectionNumber number).toSectionNumber (room + 1) = .ok number := by
  cases number with
  | none => rfl
  | some parts =>
      have hparts := mapM_map_eq_ok toSectionPart_ofNat parts
      change some <$> (parts.map _).mapM toSectionPart = _
      rw [hparts]
      rfl

theorem toTexts_texts (room : Nat) (texts : List String) :
    (array (texts.map text)).toTexts (room + 1) = .ok texts :=
  mapM_map_eq_ok toText_text texts

theorem orNull_ofText? (value : Option String) : (ofText? value).orNull toText = .ok value := by
  cases value <;> rfl

end Json

theorem Chapter.nodup_keys : Chapter.keys.Nodup := by decide

theorem Book.nodup_keys : Book.keys.Nodup := by decide

/-- A chapter is read back if the items in it are. -/
theorem Chapter.finish_read_toJson (room : Nat) (toItem : Json → Reading Item) (chapter : Chapter) :
    (chapter.toJson.readRecord (room + 2) Chapter.keys (Draft.take (room + 1) toItem) {} >>=
        Draft.finish) =
      (itemsToJson chapter.subItems).mapM toItem >>= fun items =>
        .ok { chapter with subItems := items } := by
  obtain ⟨name, content, number, subItems, path, sourcePath, parentNames⟩ := chapter
  rw [Chapter.toJson, Json.readRecord_record (room + 1) Chapter.nodup_keys]
  · simp only [List.foldlM_cons, List.foldlM_nil, Draft.take, Json.toText_text,
      Json.toSectionNumber_ofSectionNumber, Json.items_array, Json.toTexts_texts,
      Json.orNull_ofText?, ok_bind, pure_bind, bind_assoc]
    apply bind_congr
    intro items
    cases number <;> cases path <;> cases sourcePath <;> rfl
  · rfl

theorem Item.ofJson_chapter (room : Nat) (chapter : Chapter) :
    Item.ofJson (room + 3) (Item.chapter chapter).toJson =
      (itemsToJson chapter.subItems).mapM (Item.ofJson room) >>= fun items =>
        .ok (.chapter { chapter with subItems := items }) := by
  calc Item.ofJson (room + 3) (Item.chapter chapter).toJson
      = (chapter.toJson.readRecord (room + 2) Chapter.keys
            (Chapter.Draft.take (room + 1) (Item.ofJson room)) {} >>= Chapter.Draft.finish) >>=
          fun page => .ok (.chapter page) := by
        rw [bind_assoc]
        rfl
    _ = _ := by
        rw [Chapter.finish_read_toJson, bind_assoc]
        rfl

/-- Without room for what is in it, a chapter is refused. -/
theorem Item.ofJson_chapter_of_lt (room : Nat) (h : room < 3) (chapter : Chapter) :
    Item.ofJson room (Item.chapter chapter).toJson = .error .malformed := by
  match room, h with
  | 0, _ | 1, _ | 2, _ => rfl

mutual

/-- With room for `k` levels of chapters, the items with at most so many are read back. -/
theorem Item.ofJson_toJson (k : Nat) {spare : Nat} (h : spare < 2) (item : Item) :
    Item.ofJson (3 * k + spare + 1) item.toJson =
      if item.depth ≤ k then .ok item else .error .malformed := by
  match item with
  | .separator => rfl
  | .partTitle title => rfl
  | .chapter ⟨name, content, number, subItems, path, sourcePath, parentNames⟩ =>
      match k with
      | 0 => exact Item.ofJson_chapter_of_lt _ (by omega) _
      | k + 1 =>
          have hitems := mapM_ofJson_toJson k h subItems
          have hroom : 3 * (k + 1) + spare + 1 = 3 * k + spare + 1 + 3 := by omega
          rw [hroom, Item.ofJson_chapter, hitems, ite_ok_bind]
          exact if_congr Nat.succ_le_succ_iff.symm rfl rfl

theorem mapM_ofJson_toJson (k : Nat) {spare : Nat} (h : spare < 2) (items : List Item) :
    (itemsToJson items).mapM (Item.ofJson (3 * k + spare + 1)) =
      if itemsDepth items ≤ k then .ok items else .error .malformed := by
  match items with
  | [] => rfl
  | item :: items =>
      have hitem := Item.ofJson_toJson k h item
      have hitems := mapM_ofJson_toJson k h items
      have hmax : itemsDepth (item :: items) ≤ k ↔ item.depth ≤ k ∧ itemsDepth items ≤ k := by
        rw [itemsDepth, Nat.max_le]
      rw [itemsToJson, List.mapM_cons, hitem, hitems, ite_ok_bind, ite_ok_bind, ← ite_and]
      exact if_congr hmax.symm rfl rfl

end

/-- With room for `k` levels of chapters, the books with at most so many are read back, and no
others are. -/
theorem Book.ofJson_toJson (k : Nat) {spare : Nat} (h : spare < 2) (book : Book) :
    Book.ofJson (3 * k + spare + 3) book.toJson =
      if book.depth ≤ k then .ok book else .error .malformed := by
  have hitems := mapM_ofJson_toJson k h book.sections
  have hroom : Book.ofJson (3 * k + spare + 3) book.toJson =
      ((itemsToJson book.sections).mapM (Item.ofJson (3 * k + spare + 1)) >>= fun items =>
        .ok ⟨items⟩) := by
    rw [Book.ofJson, Book.toJson, Json.readRecord_record (3 * k + spare + 2) Book.nodup_keys]
    · simp only [List.foldlM_cons, List.foldlM_nil, Book.Draft.take, pure_bind, bind_assoc]
      rfl
    · rfl
  rw [hroom, hitems, ite_ok_bind]
  rfl

/-- No chapter of a draft nests deeper than there is room for. -/
def Chapter.Draft.FitsIn (room : Nat) (draft : Chapter.Draft) : Prop :=
  ∀ items, draft.subItems = some items → 3 * itemsDepth items ≤ room

theorem three_mul_itemsDepth_le {room : Nat} {items : List Item}
    (h : ∀ item ∈ items, 3 * item.depth ≤ room) : 3 * itemsDepth items ≤ room := by
  induction items with
  | nil => exact Nat.zero_le room
  | cons item items ih =>
      obtain ⟨hitem, hitems⟩ := List.forall_mem_cons.mp h
      have := ih hitems
      rw [itemsDepth]
      omega

theorem Chapter.Draft.fitsIn_of_take {room space : Nat} {toItem : Json → Reading Item}
    (h : ∀ value item, toItem value = .ok item → 3 * item.depth ≤ room) {key : String}
    {value : Json} {draft next : Chapter.Draft} (hdraft : draft.FitsIn room)
    (hnext : draft.take space toItem key value = .ok next) : next.FitsIn room := by
  unfold Chapter.Draft.take at hnext
  split at hnext
  case h_4 =>
    obtain ⟨values, -, hnext⟩ := exists_of_bind_eq_ok hnext
    obtain ⟨items, hitems, hnext⟩ := exists_of_bind_eq_ok hnext
    cases hnext
    intro other hother
    cases hother
    exact three_mul_itemsDepth_le (forall_of_mapM_eq_ok h hitems)
  case h_8 =>
    cases hnext
    exact hdraft
  all_goals
    obtain ⟨read, -, hnext⟩ := exists_of_bind_eq_ok hnext
    cases hnext
    exact hdraft

theorem Chapter.Draft.subItems_of_finish {draft : Chapter.Draft} {page : Chapter}
    (h : draft.finish = .ok page) : draft.subItems = some page.subItems := by
  unfold Chapter.Draft.finish at h
  split at h
  · split at h
    · split at h
      · split at h
        · next hitems _ _ _ =>
            cases h
            exact hitems
        · cases h
      · cases h
    · cases h
  · cases h

theorem Chapter.depth_eq : ∀ page : Chapter, page.depth = itemsDepth page.subItems + 1
  | ⟨_, _, _, _, _, _, _⟩ => rfl

/-- No item that is read nests deeper than there is room for. -/
theorem Item.depth_le_of_ofJson {room : Nat} {value : Json} {item : Item}
    (h : Item.ofJson room value = .ok item) : 3 * item.depth ≤ room := by
  induction room using Nat.strongRecOn generalizing value item with
  | _ room ih =>
      unfold Item.ofJson at h
      split at h
      · cases h
        exact Nat.zero_le _
      · cases h
        exact Nat.zero_le _
      · obtain ⟨title, -, h⟩ := exists_of_bind_eq_ok h
        cases h
        exact Nat.zero_le _
      · next room value =>
          obtain ⟨draft, hdraft, h⟩ := exists_of_bind_eq_ok h
          obtain ⟨page, hpage, h⟩ := exists_of_bind_eq_ok h
          cases h
          have hfits : draft.FitsIn room := by
            apply Json.of_readRecord_eq_ok _ _ hdraft
            · intro key value draft next hfits hnext
              apply Chapter.Draft.fitsIn_of_take _ hfits hnext
              exact fun _ _ hitem => ih room (by omega) hitem
            · intro items hitems
              cases hitems
          have hitems := hfits _ (Chapter.Draft.subItems_of_finish hpage)
          rw [Item.depth, page.depth_eq]
          omega
      · cases h

/-- No chapter of the items known so far nests deeper than there is room for. -/
def Book.Draft.FitsIn (room : Nat) (draft : Book.Draft) : Prop :=
  ∀ items, draft.sections = some items → 3 * itemsDepth items ≤ room

theorem Book.Draft.fitsIn_of_take {room : Nat} {key : String} {value : Json}
    {draft next : Book.Draft} (hdraft : draft.FitsIn (room - 1))
    (hnext : draft.take room key value = .ok next) : next.FitsIn (room - 1) := by
  unfold Book.Draft.take at hnext
  split at hnext
  · obtain ⟨values, -, hnext⟩ := exists_of_bind_eq_ok hnext
    obtain ⟨items, hitems, hnext⟩ := exists_of_bind_eq_ok hnext
    cases hnext
    intro other hother
    cases hother
    exact three_mul_itemsDepth_le (forall_of_mapM_eq_ok (fun _ _ => Item.depth_le_of_ofJson) hitems)
  · obtain ⟨nothing, -, hnext⟩ := exists_of_bind_eq_ok hnext
    cases hnext
    exact hdraft
  · cases hnext
    exact hdraft

theorem Book.Draft.sections_of_finish {draft : Book.Draft} {book : Book}
    (h : draft.finish = .ok book) : draft.sections = some book.sections := by
  unfold Book.Draft.finish at h
  split at h
  · next hsections =>
      split at h
      · cases h
        exact hsections
      · cases h
  · cases h

/-- No book that is read has more levels of chapters than there is room for. -/
theorem Book.depth_le_of_ofJson {room : Nat} {value : Json} {book : Book}
    (h : Book.ofJson room value = .ok book) : 3 * book.depth ≤ room - 2 := by
  obtain ⟨draft, hdraft, h⟩ := exists_of_bind_eq_ok h
  have hfits : draft.FitsIn (room - 1 - 1) := by
    apply Json.of_readRecord_eq_ok _ _ hdraft
    · exact fun _ _ _ _ => Book.Draft.fitsIn_of_take
    · intro items hitems
      cases hitems
  exact hfits _ (Book.Draft.sections_of_finish h)

end BookFilter
