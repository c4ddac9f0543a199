import Mathlib.Data.List.Forall2
import BookFilter.Proofs.Configurations
import BookFilter.Proofs.Reports

/-!
# What has a say in a run

Two requests for the same book from the same release, with the same value under
`preprocessor.niri-docs`, get the same answer. The value is looked up in either form of the
configuration, tables are the same in whatever order their keys are written, and a message says of a
value that is not accepted nothing but what kind of value it is.
-/

namespace BookFilter

namespace ConfigValue

/-- Two values are the same but for the order of keys in tables. -/
inductive Same : ConfigValue → ConfigValue → Prop where
  | refl (value : ConfigValue) : Same value value
  | array {items others : List ConfigValue} (h : List.Forall₂ Same items others) :
      Same (.array items) (.array others)
  | table {entries others : List (String × ConfigValue)}
      (h : ∀ key, Option.Rel Same (entries.lookup key) (others.lookup key)) :
      Same (.table entries) (.table others)

variable {value other : ConfigValue}

theorem Same.rel_refl (value? : Option ConfigValue) : Option.Rel Same value? value? := by
  cases value? with
  | none => exact .none
  | some value => exact .some (.refl value)

theorem Same.text?_eq (h : Same value other) : value.text? = other.text? := by
  cases h <;> rfl

theorem Same.describe_eq (h : Same value other) :
    Settings.describe value = Settings.describe other := by
  cases h <;> rfl

theorem Same.rel_getElem? {items others : List ConfigValue} (h : List.Forall₂ Same items others)
    (i : Nat) : Option.Rel Same items[i]? others[i]? := by
  induction h generalizing i with
  | nil => exact .none
  | cons hsame _ ih =>
      cases i with
      | zero => exact .some hsame
      | succ i => exact ih i

theorem lookup_eq_of_perm {entries others : List (String × ConfigValue)}
    (h : entries.Perm others) (hnodup : (entries.map Prod.fst).Nodup) (key : String) :
    entries.lookup key = others.lookup key := by
  induction h with
  | nil => rfl
  | cons entry _ ih =>
      rw [List.map_cons, List.nodup_cons] at hnodup
      rw [List.lookup_cons, List.lookup_cons, ih hnodup.2]
  | swap entry next entries =>
      have hne : next.1 ≠ entry.1 := by
        simp only [List.map_cons, List.nodup_cons, List.mem_cons, not_or] at hnodup
        exact hnodup.1.1
      rw [List.lookup_cons, List.lookup_cons, List.lookup_cons, List.lookup_cons]
      by_cases hfirst : key = next.1
      · subst hfirst
        rw [beq_eq_false_iff_ne.mpr hne]
      · rw [beq_eq_false_iff_ne.mpr hfirst]
  | trans hone _ ihone ihtwo =>
      rw [ihone hnodup, ihtwo ((hone.map Prod.fst).nodup_iff.mp hnodup)]

/-- The order of the keys in a table does not matter. -/
theorem Same.table_of_perm {entries others : List (String × ConfigValue)}
    (h : entries.Perm others) (hnodup : (entries.map Prod.fst).Nodup) :
    Same (.table entries) (.table others) := by
  refine .table fun key => ?_
  rw [lookup_eq_of_perm h hnodup]
  exact rel_refl _

end ConfigValue

namespace Settings

open ConfigValue (Same)

variable {α β : Type}

/-- Two readings have the same result, or faults of the same wording. -/
def Alike (reading other : Except Fault α) : Prop :=
  reading.mapError Fault.message = other.mapError Fault.message

theorem mapError_bind {ε ε' : Type} (f : ε → ε') (reading : Except ε α) (next : α → Except ε β) :
    (reading >>= next).mapError f = reading.mapError f >>= fun value => (next value).mapError f := by
  cases reading <;> rfl

theorem Alike.bind {reading other : Except Fault α} (h : Alike reading other)
    {next further : α → Except Fault β} (hnext : ∀ value, Alike (next value) (further value)) :
    Alike (reading >>= next) (other >>= further) := by
  unfold Alike at *
  rw [mapError_bind, mapError_bind, h]
  exact bind_congr hnext

variable {value other : ConfigValue} {key : Option String}

theorem Fault.message_wrongKind (h : Same value other) (wanted : Wanted) (key : Option String) :
    (wrongKind value wanted key).message = (wrongKind other wanted key).message := by
  unfold message
  dsimp only
  rw [h.describe_eq]

theorem alike_wrongKind (h : Same value other) (wanted : Wanted) (key : Option String) :
    Alike (α := α) (.error (.wrongKind value wanted key)) (.error (.wrongKind other wanted key)) :=
  congrArg Except.error (Fault.message_wrongKind h wanted key)

theorem alike_readText (h : Same value other) : Alike (readText key value) (readText key other) := by
  unfold readText
  rw [h.text?_eq]
  cases other.text? with
  | some text => rfl
  | none => exact alike_wrongKind h .text key

theorem alike_mapM_readText {items others : List ConfigValue} (h : List.Forall₂ Same items others) :
    Alike (items.mapM (readText key)) (others.mapM (readText key)) := by
  induction h with
  | nil => rfl
  | cons hsame _ ih =>
      rw [List.mapM_cons, List.mapM_cons]
      exact (alike_readText hsame).bind fun text => ih.bind fun texts => rfl

theorem alike_readTexts (h : Same value other) :
    Alike (readTexts key value) (readTexts key other) := by
  cases h with
  | refl => rfl
  | array h => exact alike_mapM_readText h
  | table h => exact alike_wrongKind (.table h) .sequence key

theorem alike_readFlag (h : Same value other) : Alike (readFlag key value) (readFlag key other) := by
  cases h with
  | refl => rfl
  | array h => exact alike_wrongKind (.array h) .flag key
  | table h => exact alike_wrongKind (.table h) .flag key

theorem alike_readOr {fallback : α} {read : ConfigValue → Except Fault α}
    (hread : ∀ {value other}, Same value other → Alike (read value) (read other))
    {value? other? : Option ConfigValue} (h : Option.Rel Same value? other?) :
    Alike (readOr fallback read value?) (readOr fallback read other?) := by
  cases h with
  | none => rfl
  | some h => exact hread h

/-- The keys of the settings. -/
def keys : List String :=
  [repositoryKey, strippedKey, badgesKey]

theorem alike_ofEntries {get? find? : String → Option ConfigValue}
    (h : ∀ key ∈ keys, Option.Rel Same (get? key) (find? key)) :
    Alike (ofEntries get?) (ofEntries find?) :=
  (alike_readOr alike_readText (h repositoryKey (by decide))).bind fun _ =>
    (alike_readOr alike_readTexts (h strippedKey (by decide))).bind fun _ =>
      (alike_readOr alike_readFlag (h badgesKey (by decide))).bind fun _ => rfl

theorem alike_ofItems {items others : List ConfigValue} (h : List.Forall₂ Same items others) :
    Alike (ofItems items) (ofItems others) := by
  refine (alike_readOr alike_readText (Same.rel_getElem? h 0)).bind fun _ =>
    (alike_readOr alike_readTexts (Same.rel_getElem? h 1)).bind fun _ =>
      (alike_readOr alike_readFlag (Same.rel_getElem? h 2)).bind fun _ => ?_
  rw [h.length_eq]
  rfl

/-- The same value gives the same settings, or faults of the same wording. -/
theorem alike_ofValue (h : Same value other) : Alike (ofValue value) (ofValue other) := by
  cases h with
  | refl => rfl
  | array h => exact alike_ofItems h
  | table h => exact alike_ofEntries fun key _ => h key

theorem alike_ofConfig {config other : BookConfig}
    (h : Option.Rel Same (given? config) (given? other)) : Alike (ofConfig config) (ofConfig other) :=
  alike_readOr alike_ofValue h

/-- The hooks that settings ask for do not see the configuration. -/
theorem processBook_eq {settings : Settings} {preprocessor : Preprocessor}
    (h : settings.preprocessor = .ok preprocessor) (config other : BookConfig) (book : Book) :
    preprocessor.processBook config book = preprocessor.processBook other book := by
  obtain ⟨stripper, hnames⟩ := exists_stripper_of_preprocessor h
  have hbook : (preprocessor.process config book).1 = (preprocessor.process other book).1 := by
    let context : PageContext := ⟨⟨"", "", none, [], none, none, []⟩, config, []⟩
    rw [Preprocessor.process_eq_mapContent (textOnly_of_preprocessor h) config book context,
      Preprocessor.process_eq_mapContent (textOnly_of_preprocessor h) other book context]
  have hevents : Call.events (preprocessor.process config book).2 =
      Call.events (preprocessor.process other book).2 := by
    rw [events_process hnames h, events_process hnames h]
  simp only [Preprocessor.processBook, hbook, hevents]

end Settings

namespace Outcome

variable {α β : Type}

/-- What is to be seen of a run: its events, and the result or the wording of the fault. -/
def shown (outcome : Outcome α) : List Event × Except (List String) α :=
  (outcome.events, outcome.result.mapError RunFault.messages)

theorem shown_settings (reading : Except Settings.Fault α) :
    (ofExcept (reading.mapError .settings)).shown =
      ([], (reading.mapError Settings.Fault.message).mapError fun message =>
        [s!"Could not deserialize {RunFault.tableName}", "Couldn't deserialize the value",
          message]) := by
  cases reading <;> rfl

theorem shown_bind {outcome other : Outcome α} (h : outcome.shown = other.shown)
    {next further : α → Outcome β} (hnext : ∀ value, (next value).shown = (further value).shown) :
    (outcome >>= next).shown = (other >>= further).shown := by
  obtain ⟨events, result⟩ := outcome
  obtain ⟨others, final⟩ := other
  obtain ⟨rfl, hresult⟩ := Prod.mk.inj h
  cases result with
  | error fault =>
      cases final with
      | error => exact congrArg (events, Except.error ·) (Except.error.inj hresult)
      | ok => cases hresult
  | ok value =>
      cases final with
      | error => cases hresult
      | ok =>
          cases hresult
          obtain ⟨hevents, hfinal⟩ := Prod.mk.inj (hnext value)
          exact Prod.ext (congrArg (events ++ ·) hevents) hfinal

end Outcome

namespace Preprocessor

variable {own other : Preprocessor}

/-- Over the same book, what is to be seen of a run comes from the value under
`preprocessor.niri-docs` alone. -/
theorem shown_run {config further : BookConfig}
    (h : Option.Rel ConfigValue.Same (Settings.given? config) (Settings.given? further))
    (book : Book) : (own.run config book).shown = (other.run further book).shown := by
  have hsettings : (Outcome.ofExcept ((Settings.ofConfig config).mapError .settings)).shown =
      (Outcome.ofExcept ((Settings.ofConfig further).mapError .settings)).shown := by
    have halike := Settings.alike_ofConfig h
    unfold Settings.Alike at halike
    rw [Outcome.shown_settings, Outcome.shown_settings, halike]
  refine Outcome.shown_bind hsettings fun settings => ?_
  cases hcreated : settings.preprocessor with
  | error refusal =>
      rw [Settings.create_of_error hcreated]
      rfl
  | ok preprocessor =>
      rw [Settings.create_of_ok hcreated]
      exact congrArg
        (fun processed => (Outcome.mk (_ :: processed.events) processed.result).shown)
        (Settings.processBook_eq hcreated config further book)

end Preprocessor

/-- Answers a request with a preprocessor that has hooks of its own. -/
def Request.runBy (own : Preprocessor) (request : Request) : Outcome Book := do
  checkVersion request.context.version
  own.run request.context.config request.book

namespace Preprocessor

/-- Reads a request and answers it, for a preprocessor with hooks of its own. -/
def answer (own : Preprocessor) (bytes : ByteArray) : Outcome String := do
  let request ← .ofExcept ((Request.ofBytes bytes).mapError .ofRead)
  let book ← request.runBy own
  return book.toJson.render

/-- The program answers by way of the default preprocessor. -/
theorem answer_default (bytes : ByteArray) : default.answer bytes = BookFilter.run bytes := rfl

theorem answer_of_ofBytes {own : Preprocessor} {bytes : ByteArray} {request : Request}
    (h : Request.ofBytes bytes = .ok request) :
    own.answer bytes = request.runBy own >>= fun book => pure book.toJson.render := by
  rw [answer, h]
  rfl

/-- For any two requests for the same book from the same release, with the same value under
`preprocessor.niri-docs` in their configurations, whatever the form these have and whatever else is
in them, and for any two preprocessors: the events are the same, and so is the book that is written
or the wording of the fault. -/
theorem shown_answer_eq_of_ownSettings (own other : Preprocessor) (bytes more : ByteArray)
    (request further : Request) (hread : Request.ofBytes bytes = .ok request)
    (hmore : Request.ofBytes more = .ok further) (hbook : request.book = further.book)
    (hversion : request.context.version = further.context.version)
    (hsettings : Option.Rel ConfigValue.Same (Request.ownSettings? bytes)
      (Request.ownSettings? more)) :
    (own.answer bytes).shown = (other.answer more).shown := by
  rw [answer_of_ofBytes hread, answer_of_ofBytes hmore]
  refine Outcome.shown_bind ?_ fun book => rfl
  rw [Request.runBy, Request.runBy, hbook, hversion]
  refine Outcome.shown_bind rfl fun _ => shown_run ?_ further.book
  rw [Request.given?_of_ofBytes hread, Request.given?_of_ofBytes hmore]
  exact hsettings

end Preprocessor

/-- A page to be sent from two places. -/
def Book.page : Book :=
  ⟨[.chapter ⟨"Keys", "a,MUST-fail,b", none, [], none, none, []⟩]⟩

/-- A request with a configuration of the form before the current one. -/
def Request.fromLegacy : Request where
  context := {
    root := "/old"
    config := ⟨some "niri", .table [("book", .boolean true), ("preprocessor", .table [
      ("niri-docs", .table [
        ("version-badges", .boolean false), ("strip-annotations", .array [.string "b"])])])]⟩
    renderer := "html"
    version := "0.5.0" }
  book := .page

/-- Its configuration. -/
def Request.legacyConfig : Json :=
  .record [("title", .text "niri"), ("book", .bool true), ("preprocessor", .record [
    ("niri-docs", .record [
      ("version-badges", .bool false), ("strip-annotations", .array [.text "b"])])])]

/-- A request with a configuration of the current form. -/
def Request.fromCurrent : Request where
  context := {
    root := "/new"
    config := ⟨some "other", .table [("preprocessor", .table [("links", .table []),
      ("niri-docs", .table [
        ("strip-annotations", .array [.string "b"]), ("version-badges", .boolean false)])])]⟩
    renderer := "epub"
    version := "0.5.0" }
  book := .page

/-- Its configuration. -/
def Request.currentConfig : Json :=
  .record [("preprocessor", .record [("links", .record []), ("niri-docs", .record [
      ("strip-annotations", .array [.text "b"]), ("version-badges", .bool false)])]),
    ("book", .record [("title", .text "other")])]

/-- What stands under `preprocessor.niri-docs` is written in another order here, and all else is
different. -/
theorem Preprocessor.shown_answer_eq_of_ownSettings_legacy :
    Request.ofBytes (Request.fromLegacy.toJson Request.legacyConfig).render.toUTF8 =
        .ok Request.fromLegacy ∧
      Request.ofBytes (Request.fromCurrent.toJson Request.currentConfig).render.toUTF8 =
        .ok Request.fromCurrent ∧
      ((Preprocessor.mk []).answer
          (Request.fromLegacy.toJson Request.legacyConfig).render.toUTF8).shown =
        (Preprocessor.default.answer
          (Request.fromCurrent.toJson Request.currentConfig).render.toUTF8).shown := by
  have hlegacy : Request.fromLegacy.IsConfig Request.legacyConfig := rfl
  have hcurrent : Request.fromCurrent.IsConfig Request.currentConfig := rfl
  have hread := (Request.ofBytes_render hlegacy).trans (if_pos (by decide))
  have hmore := (Request.ofBytes_render hcurrent).trans (if_pos (by decide))
  refine ⟨hread, hmore, Preprocessor.shown_answer_eq_of_ownSettings _ _ _ _ _ _ hread hmore rfl rfl
    ?_⟩
  rw [← Request.given?_of_ofBytes hread, ← Request.given?_of_ofBytes hmore]
  exact .some (.table_of_perm (.swap _ _ _) (by decide))

end BookFilter
