import BookFilter.Config.Settings
import BookFilter.Proofs.Requests

/-!
# The configuration in a request

A request is read only if there is an accepted book configuration in it. In either of the forms that
a configuration has, parts of it are taken out when it is read, but what stands under
`preprocessor.niri-docs` is kept as it is, so the settings are those that are written there.
-/

namespace BookFilter

namespace ConfigValue

theorem lookup_filter {entries : List (String × ConfigValue)} (keep : String → Bool)
    (key : String) :
    (entries.filter fun (name, _) => keep name).lookup key =
      if keep key then entries.lookup key else none := by
  induction entries with
  | nil => simp
  | cons entry entries ih =>
      obtain ⟨name, value⟩ := entry
      by_cases hname : key = name
      · subst hname
        cases hkeep : keep key <;> simp [hkeep, ih]
      · have hbeq : (key == name) = false := beq_eq_false_iff_ne.mpr hname
        cases hkeep : keep name <;> simp [hkeep, List.lookup_cons, hbeq, ih]

theorem lookup_map {entries : List (String × ConfigValue)} {key : String}
    (f : String → ConfigValue → ConfigValue) (hkey : ∀ value, f key value = value) :
    (entries.map fun entry => (entry.1, f entry.1 entry.2)).lookup key = entries.lookup key := by
  induction entries with
  | nil => rfl
  | cons entry entries ih =>
      obtain ⟨name, value⟩ := entry
      rw [List.map_cons, List.lookup_cons, List.lookup_cons, ih]
      by_cases hname : key = name
      · rw [← hname, hkey]
      · rw [beq_eq_false_iff_ne.mpr hname]

/-- What is removed under one key is not missed under another. -/
theorem get?_remove {path : List String} {key : String} (h : key ∉ path.head?)
    (value : ConfigValue) : (value.remove path).get? key = value.get? key := by
  cases path with
  | nil => rfl
  | cons other path =>
      have hne : key ≠ other := fun heq => h (congrArg some heq.symm)
      cases value with
      | table entries =>
          cases path with
          | nil =>
              exact (lookup_filter (fun name => name ≠ other) key).trans
                (if_pos (by simpa using hne))
          | cons next path =>
              exact lookup_map
                (fun name value => if name = other then value.remove (next :: path) else value)
                fun value => if_neg hne
      | string | integer | float | boolean | datetime | array => cases path <;> rfl

/-- What stands under `preprocessor.niri-docs`. There is nothing if there is no `preprocessor`, or if
it is no table. -/
def ownSettings? (value : ConfigValue) : Option ConfigValue :=
  (value.get? "preprocessor").bind (get? "niri-docs")

end ConfigValue

/-- Nothing that is of the form before the current one stands under `preprocessor`. -/
theorem BookConfig.get?_withoutLegacy (value : ConfigValue) :
    (withoutLegacy value).get? "preprocessor" = value.get? "preprocessor" := by
  have hother : ∀ path ∈ legacyPaths, "preprocessor" ∉ path.head? := by decide
  rw [withoutLegacy]
  generalize legacyPaths = paths at hother ⊢
  induction paths generalizing value with
  | nil => rfl
  | cons path paths ih =>
      obtain ⟨hpath, hpaths⟩ := List.forall_mem_cons.mp hother
      rw [List.foldl_cons, ih _ hpaths, ConfigValue.get?_remove hpath]

/-- Neither form of a configuration does anything to what stands under `preprocessor.niri-docs`. -/
theorem Settings.given?_of_ofValue {value : ConfigValue} {config : BookConfig}
    (h : BookConfig.ofValue value = .ok config) : given? config = value.ownSettings? := by
  unfold BookConfig.ofValue at h
  split at h
  · next entries =>
      split at h
      · cases h
        rw [given?, BookConfig.get?_withoutLegacy]
        rfl
      · split at h
        · cases h
          have hkept : (ConfigValue.table (entries.filter fun (key, _) =>
              !(BookConfig.sections.map Prod.fst).contains key)).get? "preprocessor" =
                entries.lookup "preprocessor" :=
            (ConfigValue.lookup_filter
              (fun key => !(BookConfig.sections.map Prod.fst).contains key) "preprocessor").trans
              (if_pos (by decide))
          rw [given?, hkept]
          rfl
        · cases h
  · cases h

theorem BookConfig.exists_value_of_ofJson {room : Nat} {json : Json} {config : BookConfig}
    (h : BookConfig.ofJson room json = .ok config) :
    ∃ value, ConfigValue.ofJson? room json = some value ∧ BookConfig.ofValue value = .ok config := by
  unfold BookConfig.ofJson at h
  split at h
  · next value hvalue => exact ⟨value, hvalue, h⟩
  · cases h

namespace RunContext

theorem readsPartAt_config (room : Nat) :
    Json.ReadsPartAt (Draft.take room) Draft.config "config" := by
  intro key value draft next hne h
  unfold Draft.take at h
  split at h
  · obtain ⟨text, -, h⟩ := exists_of_bind_eq_ok h
    cases h
    rfl
  · exact absurd rfl hne
  · obtain ⟨text, -, h⟩ := exists_of_bind_eq_ok h
    cases h
    rfl
  · obtain ⟨text, -, h⟩ := exists_of_bind_eq_ok h
    cases h
    rfl
  · cases h
    rfl

theorem Draft.config_of_finish {draft : Draft} {context : RunContext}
    (h : draft.finish = .ok context) : draft.config = some context.config := by
  unfold Draft.finish at h
  split at h
  · split at h
    · split at h
      · split at h
        · cases h
          assumption
        · cases h
      · cases h
    · cases h
  · cases h

theorem config_of_readConfig {room : Nat} {value : Json} {config : BookConfig}
    (h : readConfig room value = .ok config) : BookConfig.ofJson room value = .ok config := by
  unfold readConfig at h
  split at h
  · next hconfig =>
      cases h
      exact hconfig
  · cases h
  · cases h

/-- The configuration of a context is the value of its key. -/
theorem exists_config_of_ofJson {room : Nat} {value : Json} {context : RunContext}
    (h : RunContext.ofJson room value = .ok context) :
    ∃ config, value.valueAt? keys "config" = some config ∧
      BookConfig.ofJson (room - 1) config = .ok context.config := by
  obtain ⟨draft, hdraft, hfinish⟩ := exists_of_bind_eq_ok h
  have hconfig := Draft.config_of_finish hfinish
  have hne : draft.config ≠ ({} : Draft).config := by
    rw [hconfig]
    exact Option.some_ne_none _
  obtain ⟨config, before, next, hvalue, htake, hpart⟩ :=
    Json.exists_value_of_readRecord (by decide) (by decide) (readsPartAt_config _) hdraft hne
  obtain ⟨read, hread, hnext⟩ := exists_of_bind_eq_ok htake
  cases hnext
  have heq : some read = some context.config := hpart.trans hconfig
  cases heq
  exact ⟨config, hvalue, config_of_readConfig hread⟩

end RunContext

namespace Request

/-- The book configuration that stands in a request, as JSON. -/
def configJson? (bytes : ByteArray) : Option Json :=
  match (Json.read (Text.charsOfUtf8 bytes)).1 with
  | .array (context :: _) => context.valueAt? RunContext.keys "config"
  | _ => none

/-- What stands under `preprocessor.niri-docs` in the book configuration of a request. -/
def ownSettings? (bytes : ByteArray) : Option ConfigValue := do
  let config ← configJson? bytes
  let value ← ConfigValue.ofJson? (maxDepth - 2) config
  value.ownSettings?

variable {bytes : ByteArray} {request : Request}

/-- The configuration of a request that can be read is the one that stands in it. -/
theorem exists_configJson_of_ofBytes (h : Request.ofBytes bytes = .ok request) :
    ∃ config, configJson? bytes = some config ∧
      BookConfig.ofJson (maxDepth - 2) config = .ok request.context.config := by
  obtain ⟨value, hread, hrequest⟩ := exists_of_ofBytes h
  obtain ⟨context, book, rfl, hcontext, -⟩ := exists_of_ofJson hrequest
  obtain ⟨config, hconfig, hvalid⟩ := RunContext.exists_config_of_ofJson hcontext
  refine ⟨config, ?_, hvalid⟩
  rw [configJson?, hread]
  exact hconfig

theorem given?_of_ofBytes (h : Request.ofBytes bytes = .ok request) :
    Settings.given? request.context.config = ownSettings? bytes := by
  obtain ⟨json, hjson, hconfig⟩ := exists_configJson_of_ofBytes h
  obtain ⟨value, hvalue, hvalid⟩ := BookConfig.exists_value_of_ofJson hconfig
  rw [Settings.given?_of_ofValue hvalid, ownSettings?, hjson]
  simp only [Option.bind_eq_bind, Option.bind_some, hvalue]

end Request

end BookFilter
