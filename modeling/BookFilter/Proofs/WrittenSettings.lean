import BookFilter.Proofs.Configurations
import BookFilter.Proofs.Influence
import BookFilter.Proofs.Tables

/-!
# Settings read back

Settings that are written into a configuration are read back from it, as an object with the three
keys in any order or as an array; what is left out has its default, each value for itself. Of an
object only the three keys count. An object whose first key is the one that is set aside for days
and times is none of these: it stands for a day or time, which is no settings.
-/

namespace BookFilter

/-- A book configuration as JSON with the place under `preprocessor.niri-docs` left free. -/
structure ConfigFrame where
  outer : Surroundings
  preprocessors : Surroundings

/-- The book configuration with a value in the free place. -/
def ConfigFrame.fill (frame : ConfigFrame) (own : Json) : Json :=
  frame.outer.put "preprocessor" (frame.preprocessors.put Preprocessor.name own)

namespace BookConfig

open ConfigValue (get?)

/-- Every accepted configuration with something under `preprocessor.niri-docs` comes from a frame
with that in the free place. -/
theorem exists_fill_of_given? {room : Nat} {json : Json} {config : BookConfig} {value : ConfigValue}
    (h : ofJson room json = .ok config) (hgiven : Settings.given? config = some value) :
    ∃ frame own below, room = below + 2 ∧ json = ConfigFrame.fill frame own ∧
      ConfigValue.ofJson? below own = some value := by
  obtain ⟨read, hread, hvalue⟩ := exists_value_of_ofJson h
  rw [Settings.given?_of_ofValue hvalue, ConfigValue.ownSettings?,
    Option.bind_eq_some_iff] at hgiven
  obtain ⟨inner, hinner, hown⟩ := hgiven
  obtain ⟨outer, innerJson, middle, rfl, rfl, hinnerRead⟩ :=
    ConfigValue.exists_put_of_get? hread hinner
  obtain ⟨preprocessors, own, below, rfl, rfl, hownRead⟩ :=
    ConfigValue.exists_put_of_get? hinnerRead hown
  exact ⟨⟨outer, preprocessors⟩, own, below, rfl, rfl, hownRead⟩

end BookConfig

namespace Settings

/-- The repository as JSON. -/
def repositoryJson (settings : Settings) : Json :=
  .text settings.repository

/-- The names as JSON. -/
def strippedJson (settings : Settings) : Json :=
  .array (settings.stripped.map .text)

/-- The switch for badges as JSON. -/
def badgesJson (settings : Settings) : Json :=
  .bool settings.badges

/-- A value of the settings is given as it is written, or it is not given and is the default. -/
def IsGiven (settings : Settings) (write : Settings → Json) (given : Option Json) : Prop :=
  given = some (write settings) ∨ given = none ∧ write settings = write default

/-- The values in the order of their keys. -/
def toItems (settings : Settings) : List Json :=
  [settings.repositoryJson, settings.strippedJson, settings.badgesJson]

/-- The settings are written as an object with their values under the three keys, in any order and
together with any values under other keys, or as an array of their values in order. A value that is
the default may be missing in an object; in an array all values from some place on may be, if they
are. The values under other keys have to be ones of a configuration. -/
inductive IsWritten (room : Nat) (settings : Settings) : Json → Prop where
  | object (fields : List (String × Json)) (hnodup : (fields.map Prod.fst).Nodup)
      (hrepository : settings.IsGiven repositoryJson (fields.lookup repositoryKey))
      (hstripped : settings.IsGiven strippedJson (fields.lookup strippedKey))
      (hbadges : settings.IsGiven badgesJson (fields.lookup badgesKey))
      (hothers : ∀ field ∈ fields, field.1 ∉ keys →
        ∃ value, ConfigValue.ofJson? room field.2 = some value) :
      IsWritten room settings (.record fields)
  | array (count : Nat) (hdropped : settings.toItems.drop count = default.toItems.drop count) :
      IsWritten room settings (.array (settings.toItems.take count))

section ReadBack

variable {α : Type} {room : Nat} {settings : Settings} {key : Option String}

variable {write : Settings → Json} {get : Settings → α} {read : ConfigValue → Except Fault α}

end ReadBack

end Settings

end BookFilter
