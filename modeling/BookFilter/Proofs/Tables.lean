import BookFilter.Config.Value
import Mathlib.Data.List.Nodup

/-!
# Objects read as tables

An object is read one field after the other: the value of a key is what the field of that key is
read as. One field can be replaced without a change to the others. An object whose first key is the
one that is set aside for days and times is no table.
-/

namespace BookFilter

section MapM

variable {α β : Type} {f : α → Option β} {values : List α} {results : List β}

theorem mapM_cons_eq_some_iff {value : α} :
    (value :: values).mapM f = some results ↔
      ∃ result others, f value = some result ∧ values.mapM f = some others ∧
        result :: others = results := by
  simp only [List.mapM_cons, Option.bind_eq_bind, Option.pure_def, Option.bind_eq_some_iff,
    Option.some.injEq, exists_and_left]

end MapM

namespace ConfigValue

variable {room : Nat} {fields : List (String × Json)} {entries : List (String × ConfigValue)}

/-- The entries of a table that fields are. -/
def entriesOf? (room : Nat) (fields : List (String × Json)) :
    Option (List (String × ConfigValue)) :=
  fields.mapM fun field => (ofJson? room field.2).map (field.1, ·)

theorem entriesOf?_cons_eq_some_iff {key : String} {value : Json} :
    entriesOf? room ((key, value) :: fields) = some entries ↔
      ∃ result others, ofJson? room value = some result ∧ entriesOf? room fields = some others ∧
        entries = (key, result) :: others := by
  rw [entriesOf?, mapM_cons_eq_some_iff]
  constructor
  · rintro ⟨entry, others, hentry, hothers, rfl⟩
    obtain ⟨result, hresult, rfl⟩ := Option.map_eq_some_iff.mp hentry
    exact ⟨result, others, hresult, hothers, rfl⟩
  · rintro ⟨result, others, hresult, hothers, rfl⟩
    exact ⟨_, others, Option.map_eq_some_iff.mpr ⟨result, hresult, rfl⟩, hothers, rfl⟩

theorem lookup_of_entriesOf? (h : entriesOf? room fields = some entries) (key : String) :
    entries.lookup key = (fields.lookup key).bind (ofJson? room) := by
  induction fields generalizing entries with
  | nil =>
      cases h
      rfl
  | cons field fields ih =>
      obtain ⟨name, value⟩ := field
      obtain ⟨result, others, hresult, hothers, rfl⟩ := entriesOf?_cons_eq_some_iff.mp h
      rw [List.lookup_cons, List.lookup_cons]
      split
      · exact hresult.symm
      · exact ih hothers

end ConfigValue

/-- The fields of an object before and after a place that is left free. -/
structure Surroundings where
  before : List (String × Json)
  after : List (String × Json)

/-- The object with a field in the free place. -/
def Surroundings.put (around : Surroundings) (key : String) (value : Json) : Json :=
  .record (around.before ++ (key, value) :: around.after)

namespace ConfigValue

/-- The fields of an object that is read as a table have texts as keys. -/
theorem exists_record_of_mapM {room : Nat} {fields : List Field}
    {entries : List (String × ConfigValue)}
    (h : fields.mapM (fun field => do return (← field.key, ← ofJson? room field.value)) =
      some entries) :
    ∃ named, Json.object fields = .record named ∧ entriesOf? room named = some entries := by
  induction fields generalizing entries with
  | nil =>
      cases h
      exact ⟨[], rfl, rfl⟩
  | cons field fields ih =>
      obtain ⟨entry, others, hentry, hothers, rfl⟩ := mapM_cons_eq_some_iff.mp h
      obtain ⟨named, hnamed, hentries⟩ := ih hothers
      obtain ⟨key, hkey, hentry⟩ := Option.bind_eq_some_iff.mp hentry
      obtain ⟨value, hvalue, hentry⟩ := Option.bind_eq_some_iff.mp hentry
      cases hentry
      obtain ⟨name, json⟩ := field
      obtain rfl : name = some key := hkey
      exact ⟨(key, json) :: named,
        congrArg (fun fields => Json.object (⟨some key, json⟩ :: fields)) (Json.object.inj hnamed),
        entriesOf?_cons_eq_some_iff.mpr ⟨value, others, hvalue, hentries, rfl⟩⟩

theorem get?_of_toConfigValue? {numeral : Numeral} {read : ConfigValue}
    (h : numeral.toConfigValue? = some read) (key : String) : read.get? key = none := by
  have hfloat : ∀ {read : ConfigValue},
      numeral.toBinary64?.map (.float numeral.negative) = some read → read.get? key = none := by
    intro read h
    obtain ⟨magnitude, -, rfl⟩ := Option.map_eq_some_iff.mp h
    rfl
  unfold Numeral.toConfigValue? at h
  dsimp only at h
  repeat' split at h
  all_goals first
    | exact hfloat h
    | cases h; rfl
    | cases h

/-- A key with a value comes from an object with a field of that key. -/
theorem exists_put_of_get? {room : Nat} {json : Json} {read value : ConfigValue} {key : String}
    (h : ofJson? room json = some read) (hget : read.get? key = some value) :
    ∃ around inner below, room = below + 1 ∧ json = Surroundings.put around key inner ∧
      ofJson? below inner = some value := by
  cases json with
  | null | broken => cases room <;> cases h
  | bool flag =>
      cases room <;> cases h <;> cases hget
  | string text =>
      have htext : text.map .string = some read := by
        cases room <;> exact h
      obtain ⟨text, -, rfl⟩ := Option.map_eq_some_iff.mp htext
      cases hget
  | number numeral =>
      have hnumeral : numeral.toConfigValue? = some read := by
        cases room <;> exact h
      rw [get?_of_toConfigValue? hnumeral] at hget
      cases hget
  | array items =>
      cases room with
      | zero => cases h
      | succ room =>
          obtain ⟨values, -, rfl⟩ := Option.map_eq_some_iff.mp h
          cases hget
  | object fields =>
      cases room with
      | zero => cases h
      | succ room =>
          rw [ofJson?] at h
          split at h
          · obtain ⟨date, -, rfl⟩ := Option.map_eq_some_iff.mp h
            cases hget
          · obtain ⟨entries, hentries, h⟩ := Option.bind_eq_some_iff.mp h
            split at h
            · cases h
              obtain ⟨named, hnamed, hnamed_entries⟩ := exists_record_of_mapM hentries
              rw [get?, lookup_of_entriesOf? hnamed_entries, Option.bind_eq_some_iff] at hget
              obtain ⟨inner, hinner, hvalue⟩ := hget
              obtain ⟨before, after, rfl, -⟩ := List.lookup_eq_some_iff.mp hinner
              exact ⟨⟨before, after⟩, inner, room, rfl, hnamed, hvalue⟩
            · cases h

end ConfigValue

end BookFilter
