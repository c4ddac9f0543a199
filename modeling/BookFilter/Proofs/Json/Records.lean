import BookFilter.Json.Record
import Mathlib.Logic.Basic

/-!
# Records read back

A record that is written with each of its keys once is read one field after the other, in the order
in which the fields are written. Values are read back one by one. What the reading of every field
keeps, the reading of a record keeps, however the record is written; and what only the value of one
key has a say in comes from the value that stands under that key.
-/

namespace BookFilter

section Reading

variable {ε α β : Type}

@[simp]
theorem ok_bind (value : α) (next : α → Except ε β) : (Except.ok value >>= next) = next value := rfl

/-- What comes after a value that is there only under a condition. -/
theorem ite_ok_bind {p : Prop} [Decidable p] (value : α) (fault : ε) (next : α → Except ε β) :
    ((if p then .ok value else .error fault) >>= next) =
      if p then next value else .error fault := by
  split <;> rfl

theorem mapM_map_eq_ok {read : β → Except ε α} {write : α → β}
    (h : ∀ value, read (write value) = .ok value) (values : List α) :
    (values.map write).mapM read = .ok values := by
  calc (values.map write).mapM read
      = values.mapM fun value => pure (id value) := by
        rw [List.mapM_map]
        exact congrArg values.mapM (funext h)
    _ = .ok values := by
        rw [List.mapM_pure, List.map_id]
        rfl

theorem exists_of_bind_eq_ok {outcome : Except ε α} {next : α → Except ε β} {result : β}
    (h : outcome >>= next = .ok result) :
    ∃ value, outcome = .ok value ∧ next value = .ok result := by
  cases outcome with
  | error fault => cases h
  | ok value => exact ⟨value, rfl, h⟩

theorem forall_of_mapM_eq_ok {f : α → Except ε β} {p : β → Prop}
    (hp : ∀ value result, f value = .ok result → p result) {values : List α} {results : List β}
    (h : values.mapM f = .ok results) : ∀ result ∈ results, p result := by
  induction values generalizing results with
  | nil =>
      cases h
      exact fun _ hresult => nomatch hresult
  | cons value values ih =>
      rw [List.mapM_cons] at h
      obtain ⟨result, hresult, h⟩ := exists_of_bind_eq_ok h
      obtain ⟨others, hothers, h⟩ := exists_of_bind_eq_ok h
      cases h
      exact List.forall_mem_cons.mpr ⟨hp value result hresult, ih hothers⟩

theorem exists_of_mapM_eq_some {f : α → Option β} {values : List α}
    {results : List β} (h : values.mapM f = some results) :
    ∀ value ∈ values, ∃ result, f value = some result := by
  induction values generalizing results with
  | nil => exact fun _ hvalue => nomatch hvalue
  | cons value values ih =>
      rw [List.mapM_cons, Option.bind_eq_bind, Option.bind_eq_some_iff] at h
      obtain ⟨result, hresult, h⟩ := h
      rw [Option.bind_eq_bind, Option.bind_eq_some_iff] at h
      obtain ⟨others, hothers, -⟩ := h
      exact List.forall_mem_cons.mpr ⟨⟨result, hresult⟩, ih hothers⟩

end Reading

namespace Json

theorem isSound_array {items : List Json} :
    (array items).isSound = true ↔ ∀ item ∈ items, item.isSound = true := by
  change soundItems items = true ↔ _
  induction items with
  | nil => simp [soundItems]
  | cons item items ih => rw [soundItems, Bool.and_eq_true, ih, List.forall_mem_cons]

theorem isSound_object {fields : List Field} :
    (object fields).isSound = true ↔ ∀ field ∈ fields, field.value.isSound = true := by
  change soundFields fields = true ↔ _
  induction fields with
  | nil => simp [soundFields]
  | cons field fields ih =>
      obtain ⟨key, value⟩ := field
      rw [soundFields, Field.isSound, Bool.and_eq_true, ih, List.forall_mem_cons]

theorem isSound_record {fields : List (String × Json)} :
    (record fields).isSound = true ↔ ∀ field ∈ fields, field.2.isSound = true := by
  rw [record, isSound_object, List.forall_mem_map]

theorem isSound_text (value : String) : (text value).isSound = true := rfl

theorem isSound_texts (texts : List String) : (array (texts.map text)).isSound = true := by
  rw [isSound_array, List.forall_mem_map]
  intro value _
  rfl

theorem items_array (room : Nat) (values : List Json) :
    (array values).items (room + 1) = .ok values := rfl

theorem toText_text (value : String) : (text value).toText = .ok value := rfl

section Record

variable {σ : Type} {keys : List String}

theorem readFields_eq_foldlM (read : String → Json → σ → Reading σ) (fields : List (String × Json))
    (hknown : ∀ field ∈ fields, field.1 ∈ keys) (hnodup : (fields.map Prod.fst).Nodup)
    (seen : List String) (hseen : ∀ field ∈ fields, field.1 ∉ seen) (state : σ) :
    readFields keys read (fields.map fun (key, value) => ⟨some key, value⟩) seen state =
      fields.foldlM (fun state (key, value) => read key value state) state := by
  induction fields generalizing seen state with
  | nil => rfl
  | cons field fields ih =>
      obtain ⟨key, value⟩ := field
      rw [List.forall_mem_cons] at hknown hseen
      rw [List.map_cons, List.nodup_cons] at hnodup
      rw [List.map_cons, List.foldlM_cons, readFields, if_pos (List.contains_iff_mem.mpr hknown.1),
        if_neg fun hmem => hseen.1 (List.contains_iff_mem.mp hmem)]
      apply bind_congr
      intro next
      apply ih hknown.2 hnodup.2
      intro other hother
      rw [List.mem_cons, not_or]
      constructor
      · intro heq
        exact hnodup.1 (List.mem_map.mpr ⟨other, hother, heq⟩)
      · exact hseen.2 other hother

/-- A record with each of the known keys is read one field after the other. -/
theorem readRecord_record (room : Nat) (hkeys : keys.Nodup) (read : String → Json → σ → Reading σ)
    (state : σ) {fields : List (String × Json)} (h : fields.map Prod.fst = keys) :
    (record fields).readRecord (room + 1) keys read state =
      fields.foldlM (fun state (key, value) => read key value state) state := by
  have hknown : ∀ field ∈ fields, field.1 ∈ keys := by
    intro field hfield
    rw [← h]
    exact List.mem_map_of_mem hfield
  rw [record, readRecord, if_neg (Nat.succ_ne_zero room)]
  exact readFields_eq_foldlM read fields hknown (h ▸ hkeys) [] (fun _ _ => List.not_mem_nil) state

end Record

section Invariant

variable {σ : Type} {p : σ → Prop} {keys : List String} {read : String → Json → σ → Reading σ}

theorem of_readFields_eq_ok
    (hread : ∀ key value state next, p state → read key value state = .ok next → p next)
    {fields : List Field} {seen : List String} {state final : σ} (hstate : p state)
    (h : readFields keys read fields seen state = .ok final) : p final := by
  fun_induction readFields keys read fields seen state with
  | case1 seen state =>
      cases h
      exact hstate
  | case2 => cases h
  | case3 => cases h
  | case4 key value fields seen state hkey hseen ih =>
      obtain ⟨next, hnext, hrest⟩ := exists_of_bind_eq_ok h
      exact ih next (hread _ _ _ _ hstate hnext) hrest
  | case5 key value fields seen state hkey hsound ih => exact ih hstate h
  | case6 => cases h

theorem of_readItems_eq_ok
    (hread : ∀ key value state next, p state → read key value state = .ok next → p next)
    {values : List Json} {state final : σ} (hstate : p state)
    (h : readItems read keys values state = .ok final) : p final := by
  fun_induction readItems read keys values state with
  | case1 state =>
      cases h
      exact hstate
  | case2 key keys value values state ih =>
      obtain ⟨next, hnext, hrest⟩ := exists_of_bind_eq_ok h
      exact ih next (hread _ _ _ _ hstate hnext) hrest
  | case3 => cases h

/-- What every value keeps, a whole record keeps, in whichever of its forms it is read. -/
theorem of_readRecord_eq_ok
    (hread : ∀ key value state next, p state → read key value state = .ok next → p next)
    {room : Nat} {value : Json} {state final : σ} (hstate : p state)
    (h : value.readRecord room keys read state = .ok final) : p final := by
  unfold readRecord at h
  split at h
  · split at h
    · cases h
    · exact of_readFields_eq_ok hread hstate h
  · split at h
    · cases h
    · exact of_readItems_eq_ok hread hstate h
  · cases h

end Invariant

/-- The value of a key in a record: that of the first field with the key, or the value that has the
place of the key in an array. -/
def valueAt? (keys : List String) (key : String) : Json → Option Json
  | .object fields => (fields.find? fun field => field.key = some key).map Field.value
  | .array items => items[keys.idxOf key]?
  | _ => none

section Key

variable {σ τ : Type} {keys : List String} {key : String} {read : String → Json → σ → Reading σ}
  {part : σ → τ}

/-- Only the value of the key has a say in the part of the state. -/
def ReadsPartAt (read : String → Json → σ → Reading σ) (part : σ → τ) (key : String) : Prop :=
  ∀ other value state next, other ≠ key → read other value state = .ok next →
    part next = part state

theorem part_eq_of_readFields_of_seen (hkeys : key ∈ keys) (hpart : ReadsPartAt read part key)
    {fields : List Field} {seen : List String} {state final : σ} (hseen : key ∈ seen)
    (h : readFields keys read fields seen state = .ok final) : part final = part state := by
  fun_induction readFields keys read fields seen state with
  | case1 seen state =>
      cases h
      rfl
  | case2 => cases h
  | case3 => cases h
  | case4 other value fields seen state hother hnew ih =>
      obtain ⟨next, hnext, hrest⟩ := exists_of_bind_eq_ok h
      have hne : other ≠ key := by
        rintro rfl
        exact hnew (List.contains_iff_mem.mpr hseen)
      rw [ih next (List.mem_cons_of_mem _ hseen) hrest, hpart other value state next hne hnext]
  | case5 other value fields seen state hother hsound ih => exact ih hseen h
  | case6 => cases h

theorem exists_value_of_readFields (hkeys : key ∈ keys) (hpart : ReadsPartAt read part key)
    {fields : List Field} {seen : List String} {state final : σ}
    (h : readFields keys read fields seen state = .ok final) (hne : part final ≠ part state) :
    ∃ value before next, (object fields).valueAt? keys key = some value ∧
      read key value before = .ok next ∧ part next = part final := by
  fun_induction readFields keys read fields seen state with
  | case1 seen state =>
      cases h
      exact absurd rfl hne
  | case2 => cases h
  | case3 => cases h
  | case4 other value fields seen state hother hnew ih =>
      obtain ⟨next, hnext, hrest⟩ := exists_of_bind_eq_ok h
      by_cases heq : other = key
      · subst heq
        have hlast := part_eq_of_readFields_of_seen hkeys hpart (List.mem_cons_self ..) hrest
        exact ⟨value, state, next, by simp [valueAt?], hnext, hlast.symm⟩
      · rw [← hpart other value state next heq hnext] at hne
        obtain ⟨item, before, after, hitem, hread⟩ := ih next hrest hne
        exact ⟨item, before, after, by simpa [valueAt?, heq] using hitem, hread⟩
  | case5 other value fields seen state hother hsound ih =>
      have heq : other ≠ key := by
        rintro rfl
        exact hother (List.contains_iff_mem.mpr hkeys)
      obtain ⟨item, before, after, hitem, hread⟩ := ih h hne
      exact ⟨item, before, after, by simpa [valueAt?, heq] using hitem, hread⟩
  | case6 => cases h

theorem part_eq_of_readItems (hpart : ReadsPartAt read part key) (hkeys : key ∉ keys)
    {values : List Json} {state final : σ} (h : readItems read keys values state = .ok final) :
    part final = part state := by
  fun_induction readItems read keys values state with
  | case1 state =>
      cases h
      rfl
  | case2 other keys value values state ih =>
      obtain ⟨next, hnext, hrest⟩ := exists_of_bind_eq_ok h
      rw [List.mem_cons, not_or] at hkeys
      rw [ih next hkeys.2 hrest, hpart other value state next (Ne.symm hkeys.1) hnext]
  | case3 => cases h

theorem exists_value_of_readItems (hnodup : keys.Nodup) (hpart : ReadsPartAt read part key)
    {values : List Json} {state final : σ} (h : readItems read keys values state = .ok final)
    (hne : part final ≠ part state) :
    ∃ value before next, (array values).valueAt? keys key = some value ∧
      read key value before = .ok next ∧ part next = part final := by
  fun_induction readItems read keys values state with
  | case1 state =>
      cases h
      exact absurd rfl hne
  | case2 other keys value values state ih =>
      obtain ⟨next, hnext, hrest⟩ := exists_of_bind_eq_ok h
      rw [List.nodup_cons] at hnodup
      by_cases heq : other = key
      · subst heq
        have hlast := part_eq_of_readItems hpart hnodup.1 hrest
        exact ⟨value, state, next, by simp [valueAt?], hnext, hlast.symm⟩
      · rw [← hpart other value state next heq hnext] at hne
        obtain ⟨item, before, after, hitem, hread⟩ := ih next hnodup.2 hrest hne
        have hbeq : (other == key) = false := beq_eq_false_iff_ne.mpr heq
        exact ⟨item, before, after, by simpa [valueAt?, List.idxOf_cons, hbeq] using hitem,
          hread⟩
  | case3 => cases h

/-- A part that the reading of a record changes comes from the value of its key, in whichever of its
forms the record is read. -/
theorem exists_value_of_readRecord (hnodup : keys.Nodup) (hkeys : key ∈ keys)
    (hpart : ReadsPartAt read part key) {room : Nat} {value : Json} {state final : σ}
    (h : value.readRecord room keys read state = .ok final) (hne : part final ≠ part state) :
    ∃ item before next, value.valueAt? keys key = some item ∧
      read key item before = .ok next ∧ part next = part final := by
  unfold readRecord at h
  split at h
  · split at h
    · cases h
    · exact exists_value_of_readFields hkeys hpart h hne
  · split at h
    · cases h
    · exact exists_value_of_readItems hnodup hpart h hne
  · cases h

end Key

end Json

end BookFilter
