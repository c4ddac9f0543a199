import BookFilter.Command
import BookFilter.Proofs.Configurations
import BookFilter.Proofs.Pages
import BookFilter.Proofs.Stages

/-!
# What ends a run

A run ends without a book exactly if there is something wrong with what is sent to it: the request
cannot be read, the release of the caller is no version, the settings are not of their kinds, or one
of the names is blank. What is reported is the first of these, in its own words, and nothing is
written. Once all four are as they have to be, the run goes through.
-/

namespace BookFilter

open Text (isBlank)

/-- The number is that of the first blank name, counted from 1. -/
def IsFirstBlank (names : List String) (number : Nat) : Prop :=
  ∃ before name after, names = before ++ name :: after ∧
    (∀ other ∈ before, isBlank other.toList = false) ∧ isBlank name.toList = true ∧
    number = before.length + 1

namespace MarkerStripper

/-- Names are refused for the first blank one. -/
theorem ofNames_eq_error_iff {names : List String} {refusal : BlankName} :
    ofNames names = .error refusal ↔ IsFirstBlank names refusal.number := by
  rw [ofNames_eq_error_iff_findIdx?]
  constructor
  · rintro ⟨i, hi, rfl⟩
    obtain ⟨hlt, hblank, hbefore⟩ := List.findIdx?_eq_some_iff_getElem.mp hi
    refine ⟨names.take i, names[i], names.drop (i + 1), ?_, ?_, hblank, ?_⟩
    · rw [← List.drop_eq_getElem_cons hlt, List.take_append_drop]
    · intro other hother
      obtain ⟨j, hj, rfl⟩ := List.mem_take_iff_getElem.mp hother
      exact Bool.eq_false_iff.mpr (hbefore j (by omega))
    · rw [List.length_take_of_le (Nat.le_of_lt hlt)]
  · rintro ⟨before, name, after, rfl, hbefore, hblank, hnumber⟩
    refine ⟨before.length, ?_, congrArg BlankName.mk hnumber⟩
    rw [List.findIdx?_append, List.findIdx?_eq_none_iff.mpr hbefore, List.findIdx?_cons, hblank]
    simp

end MarkerStripper

theorem Settings.preprocessor_eq_error_iff {settings : Settings} {refusal : BlankName} :
    settings.preprocessor = .error refusal ↔ IsFirstBlank settings.stripped refusal.number := by
  rw [← MarkerStripper.ofNames_eq_error_iff, preprocessor]
  cases MarkerStripper.ofNames settings.stripped with
  | error other =>
      change (Except.error other : Except BlankName Preprocessor) = .error refusal ↔ _
      rw [Except.error.injEq, Except.error.injEq]
  | ok stripper =>
      constructor <;> intro h <;> cases h

/-- The fault is the first of those in what is sent to a run, and the events are what has been
reported until then. -/
inductive IsFirstFault (bytes : ByteArray) : RunFault → List Event → Prop where
  | unread (fault : ReadFault) (hread : Request.ofBytes bytes = .error fault) :
      IsFirstFault bytes (.ofRead fault) []
  | version (request : Request) (fault : Version.Fault)
      (hread : Request.ofBytes bytes = .ok request)
      (hversion : Version.parse request.context.version.toList = .error fault) :
      IsFirstFault bytes (.version request.context.version fault) []
  | settings (request : Request) (version : Version) (fault : Settings.Fault)
      (hread : Request.ofBytes bytes = .ok request)
      (hversion : Version.parse request.context.version.toList = .ok version)
      (hsettings : Settings.ofConfig request.context.config = .error fault) :
      IsFirstFault bytes (.settings fault) (version.warnings request.context.version)
  | names (request : Request) (version : Version) (settings : Settings) (number : Nat)
      (hread : Request.ofBytes bytes = .ok request)
      (hversion : Version.parse request.context.version.toList = .ok version)
      (hsettings : Settings.ofConfig request.context.config = .ok settings)
      (hblank : IsFirstBlank settings.stripped number) :
      IsFirstFault bytes (.names ⟨number⟩) (version.warnings request.context.version)

section Run

variable {bytes : ByteArray}

/-- The fault and the events of a run that fails are those of the first fault. -/
theorem run_eq_of_isFirstFault {fault : RunFault} {events : List Event}
    (h : IsFirstFault bytes fault events) : run bytes = ⟨events, .error fault⟩ := by
  cases h with
  | unread fault hread => exact run_of_ofBytes_error hread
  | version request fault hread hversion => exact run_of_version_error hread hversion
  | settings request version fault hread hversion hsettings =>
      exact run_of_settings_error hread hversion hsettings
  | names request version settings number hread hversion hsettings hblank =>
      exact run_of_names_error hread hversion hsettings
        (Settings.preprocessor_eq_error_iff.mpr hblank)

/-- A run that fails does so for a first fault: without one, all stages go through. -/
theorem exists_isFirstFault {fault : RunFault} (h : (run bytes).result = .error fault) :
    ∃ fault events, IsFirstFault bytes fault events := by
  cases hread : Request.ofBytes bytes with
  | error fault => exact ⟨_, _, .unread fault hread⟩
  | ok request =>
      cases hversion : Version.parse request.context.version.toList with
      | error fault => exact ⟨_, _, .version request fault hread hversion⟩
      | ok version =>
          cases hsettings : Settings.ofConfig request.context.config with
          | error fault => exact ⟨_, _, .settings request version fault hread hversion hsettings⟩
          | ok settings =>
              cases hnames : settings.preprocessor with
              | error refusal =>
                  exact ⟨_, _, .names request version settings refusal.number hread hversion
                    hsettings (Settings.preprocessor_eq_error_iff.mp hnames)⟩
              | ok preprocessor =>
                  rw [run_of_preprocessor hread hversion hsettings hnames] at h
                  cases h

theorem run_eq_error_iff_isFirstFault {fault : RunFault} {events : List Event} :
    run bytes = ⟨events, .error fault⟩ ↔ IsFirstFault bytes fault events := by
  constructor
  · intro h
    obtain ⟨first, reported, hfirst⟩ := exists_isFirstFault (congrArg Outcome.result h)
    have heq := (run_eq_of_isFirstFault hfirst).symm.trans h
    cases heq
    exact hfirst
  · exact run_eq_of_isFirstFault

/-- The settings are at fault, or the names in them. -/
def RunFault.IsLate (fault : RunFault) : Prop :=
  (∃ wrong, fault = .settings wrong) ∨ ∃ refusal, fault = .names refusal

/-- Before a fault nothing is reported but that the release need not fit, and this only if the
request and the release have been read. -/
theorem IsFirstFault.events_eq {fault : RunFault} {events : List Event}
    (h : IsFirstFault bytes fault events) :
    events = [] ∨ fault.IsLate ∧ ∃ request, Request.ofBytes bytes = .ok request ∧
      events = [.mismatch request.context.version] := by
  cases h with
  | unread | version => exact .inl rfl
  | settings request version fault hread hversion hsettings =>
      exact (version.warnings_eq_nil_or _).imp_right fun h => ⟨.inl ⟨_, rfl⟩, request, hread, h⟩
  | names request version settings number hread hversion hsettings hblank =>
      exact (version.warnings_eq_nil_or _).imp_right fun h => ⟨.inr ⟨_, rfl⟩, request, hread, h⟩

/-- What is said of a fault, from the outermost message to the innermost. A blank name is told by its
number in decimal. -/
inductive RunFault.IsToldBy : RunFault → List String → Prop where
  | unreadable :
      IsToldBy .unreadable ["Could not parse book from stdin", "Unable to parse the input"]
  | configNotTable : IsToldBy .configNotTable ["root must be a table"]
  | version (calling : String) (fault : Version.Fault) :
      IsToldBy (.version calling fault)
        ["Invalid mdbook version `" ++ calling ++ "`", fault.message]
  | settings (fault : Settings.Fault) :
      IsToldBy (.settings fault) ["Could not deserialize [preprocessor.niri-docs]",
        "Couldn't deserialize the value", fault.message]
  | names (number : Nat) :
      IsToldBy (.names ⟨number⟩) ["Invalid `strip-annotations` in [preprocessor.niri-docs]",
        "Annotation #" ++ String.ofList (Nat.toDigits 10 number) ++ " is empty"]

theorem RunFault.messages_settings (fault : Settings.Fault) :
    (RunFault.settings fault).messages = ["Could not deserialize [preprocessor.niri-docs]",
      "Couldn't deserialize the value", fault.message] := by
  have htable : "Could not deserialize " ++ tableName ++ "" =
      "Could not deserialize [preprocessor.niri-docs]" := by
    decide
  rw [← htable]
  rfl

theorem RunFault.messages_names (number : Nat) :
    (RunFault.names ⟨number⟩).messages = ["Invalid `strip-annotations` in [preprocessor.niri-docs]",
      "Annotation #" ++ String.ofList (Nat.toDigits 10 number) ++ " is empty"] := by
  have htable : "Invalid `strip-annotations` in " ++ tableName ++ "" =
      "Invalid `strip-annotations` in [preprocessor.niri-docs]" := by
    decide
  rw [← htable]
  rfl

/-- Each fault that can come first is told in its own words. -/
theorem IsFirstFault.isToldBy {fault : RunFault} {events : List Event}
    (h : IsFirstFault bytes fault events) : fault.IsToldBy fault.messages := by
  cases h with
  | unread fault hread =>
      cases fault with
      | malformed => exact .unreadable
      | configNotTable => exact .configNotTable
  | version request fault hread hversion => exact .version _ fault
  | settings request version fault hread hversion hsettings =>
      rw [RunFault.messages_settings]
      exact .settings fault
  | names request version settings number hread hversion hsettings hblank =>
      rw [RunFault.messages_names]
      exact .names number

/-- A request with a configuration that is not accepted cannot be read. -/
theorem Request.ofBytes_eq_error_of_config {config : Json} {refusal : ConfigFault}
    (hconfig : Request.configJson? bytes = some config)
    (h : BookConfig.ofJson (Request.maxDepth - 2) config = .error refusal) :
    ∃ fault, Request.ofBytes bytes = .error fault := by
  cases hread : Request.ofBytes bytes with
  | error fault => exact ⟨fault, rfl⟩
  | ok request =>
      obtain ⟨other, hother, hvalid⟩ := Request.exists_configJson_of_ofBytes hread
      rw [hconfig] at hother
      cases hother
      rw [h] at hvalid
      cases hvalid

end Run

/-- Nothing but an error is shown of a run that fails. -/
theorem Command.respond_of_run_error {bytes : ByteArray} {fault : RunFault}
    (h : (run bytes).result = .error fault) :
    (respond [] bytes).stdout = "" ∧ (respond [] bytes).code ≠ 0 := by
  change (respondRun bytes).stdout = "" ∧ (respondRun bytes).code ≠ 0
  unfold respondRun
  rw [h]
  cases fault with
  | configNotTable => exact ⟨rfl, (by decide : (101 : UInt32) ≠ 0)⟩
  | unreadable | version | requirement | settings | names =>
      exact ⟨rfl, (by decide : (1 : UInt32) ≠ 0)⟩

/-- A fault with one cause is shown with the cause on a line of its own. -/
theorem Command.stderr_of_messages {bytes : ByteArray} {fault : RunFault}
    {outermost cause : String} (h : (run bytes).result = .error fault)
    (hfault : fault ≠ .configNotTable) (hmessages : fault.messages = [outermost, cause]) :
    (respond [] bytes).stderr =
      "Error: " ++ outermost ++ "\n\nCaused by:\n    " ++ cause ++ "\n" := by
  have hrespond : (respond [] bytes).stderr =
      "Error: " ++ outermost ++ ("\n\nCaused by:\n    " ++ cause) ++ "\n" := by
    change (respondRun bytes).stderr = _
    unfold respondRun
    rw [h]
    cases fault with
    | configNotTable => exact absurd rfl hfault
    | unreadable | version | requirement | settings | names =>
        dsimp only
        rw [hmessages]
        rfl
  rw [hrespond, ← String.append_assoc]

/-- For all bytes: the run on them fails with a fault, having reported some events, exactly if it is
the first of the faults in them and the events are those up to it. A configuration that is not
accepted makes them unreadable. On each failure the fault is told in its own words, nothing is
written, and there is at most one event, about the release, which is there only if the settings or
the names are at fault. Of a blank name the error shows the number, counted from 1. When the request
is read, the release is a version, the settings are of their kinds and no name is blank, the run
writes the book that the hooks make of the one that was sent. -/
theorem run_error_iff_isFirstFault (bytes : ByteArray) :
    (∀ fault events, run bytes = ⟨events, .error fault⟩ ↔ IsFirstFault bytes fault events) ∧
    (∀ config refusal, Request.configJson? bytes = some config →
      BookConfig.ofJson (Request.maxDepth - 2) config = .error refusal →
        ∃ fault, run bytes = ⟨[], .error (.ofRead fault)⟩) ∧
    (∀ fault, (run bytes).result = .error fault →
      fault.IsToldBy fault.messages ∧
        (Command.respond [] bytes).stdout = "" ∧ (Command.respond [] bytes).code ≠ 0 ∧
        ((run bytes).events = [] ∨ fault.IsLate ∧
          ∃ request, Request.ofBytes bytes = .ok request ∧
            (run bytes).events = [.mismatch request.context.version])) ∧
    (∀ number, (run bytes).result = .error (.names ⟨number⟩) →
      (Command.respond [] bytes).stderr =
        "Error: " ++ "Invalid `strip-annotations` in [preprocessor.niri-docs]" ++
          "\n\nCaused by:\n    " ++
          ("Annotation #" ++ String.ofList (Nat.toDigits 10 number) ++ " is empty") ++ "\n") ∧
    ∀ request version settings, Request.ofBytes bytes = .ok request →
      Version.parse request.context.version.toList = .ok version →
      Settings.ofConfig request.context.config = .ok settings →
      (∀ name ∈ settings.stripped, isBlank name.toList = false) →
        ∃ preprocessor, settings.preprocessor = .ok preprocessor ∧
          run bytes =
            ⟨version.warnings request.context.version ++ .created preprocessor.hookNames ::
                Call.events (preprocessor.process request.context.config request.book).2,
              .ok (preprocessor.process request.context.config request.book).1.toJson.render⟩ := by
  refine ⟨fun fault events => run_eq_error_iff_isFirstFault, ?_, ?_, ?_, ?_⟩
  · intro config refusal hconfig hrefused
    obtain ⟨fault, hread⟩ := Request.ofBytes_eq_error_of_config hconfig hrefused
    exact ⟨fault, run_of_ofBytes_error hread⟩
  · intro fault hfault
    obtain ⟨hstdout, hcode⟩ := Command.respond_of_run_error hfault
    have hrun : run bytes = ⟨(run bytes).events, .error fault⟩ := by
      rw [← hfault]
    have hfirst := run_eq_error_iff_isFirstFault.mp hrun
    exact ⟨hfirst.isToldBy, hstdout, hcode, hfirst.events_eq⟩
  · intro number hblank
    exact Command.stderr_of_messages hblank (by simp) (RunFault.messages_names number)
  · intro request version settings hread hversion hsettings hnames
    have hcreated := Settings.preprocessor_eq_ok (MarkerStripper.ofNames_eq_ok hnames)
    exact ⟨_, hcreated, run_of_preprocessor hread hversion hsettings hcreated⟩

/-- A request of another release, with names whose markers are to be deleted. -/
def Request.naming (names : List String) : Request where
  context := {
    root := "/b"
    config := ⟨none, .table [("preprocessor", .table [("niri-docs", .table [
      ("strip-annotations", .array (names.map .string))])])]⟩
    renderer := "html"
    version := "0.5.0" }
  book := ⟨[.chapter ⟨"Keys", "a,must-fail", none, [], none, none, []⟩]⟩

/-- The configuration in it. -/
def Request.namingConfig (names : List String) : Json :=
  .record [("preprocessor", .record [("niri-docs", .record [
    ("strip-annotations", .array (names.map .text))])])]

/-- A configuration with a section about the book that is none. -/
def Request.flatConfig : Json :=
  .record [("book", .bool true)]

/-- The bytes of a request with a configuration in it. -/
def Request.sent (request : Request) (config : Json) : ByteArray :=
  (request.toJson config).render.toUTF8

/-- The bytes of a request with names whose markers are to be deleted. -/
def Request.sentNaming (names : List String) : ByteArray :=
  (Request.naming names).sent (Request.namingConfig names)

/-- Of two blank names the first is reported, after the warning about the release. A section about
the book that is none makes the request unreadable. Without a blank name the run goes through. -/
theorem run_error_iff_isFirstFault_naming :
    (run (Request.sentNaming ["must-fail", " ", ""]) =
        ⟨[.mismatch "0.5.0"], .error (.names ⟨2⟩)⟩ ∧
      (RunFault.names ⟨2⟩).messages =
        ["Invalid `strip-annotations` in [preprocessor.niri-docs]", "Annotation #2 is empty"] ∧
      (Command.respond [] (Request.sentNaming ["must-fail", " ", ""])).stdout = "" ∧
      (Command.respond [] (Request.sentNaming ["must-fail", " ", ""])).code ≠ 0 ∧
      (Command.respond [] (Request.sentNaming ["must-fail", " ", ""])).stderr =
        "Error: Invalid `strip-annotations` in [preprocessor.niri-docs]\n\nCaused by:\n" ++
          "    Annotation #2 is empty\n") ∧
    (Request.configJson? ((Request.naming []).sent Request.flatConfig) = some Request.flatConfig ∧
      BookConfig.ofJson (Request.maxDepth - 2) Request.flatConfig = .error .refused ∧
      ∃ fault, run ((Request.naming []).sent Request.flatConfig) = ⟨[], .error (.ofRead fault)⟩) ∧
    Request.ofBytes (Request.sentNaming ["must-fail"]) = .ok (Request.naming ["must-fail"]) ∧
      Settings.ofConfig (Request.naming ["must-fail"]).context.config = .ok .default ∧
      (∀ name ∈ Settings.default.stripped, isBlank name.toList = false) ∧
      ∃ text, (run (Request.sentNaming ["must-fail"])).result = .ok text := by
  have hversion : Version.parse "0.5.0".toList = .ok ⟨0, 5, 0, [], []⟩ := rfl
  refine ⟨?_, ?_, ?_⟩
  · have hconfig : (Request.naming ["must-fail", " ", ""]).IsConfig
        (Request.namingConfig ["must-fail", " ", ""]) := rfl
    have hread := (Request.ofBytes_render hconfig).trans (if_pos (by decide))
    have hblank : IsFirstBlank ["must-fail", " ", ""] 2 :=
      ⟨["must-fail"], " ", [""], rfl, by decide, by decide, rfl⟩
    obtain ⟨hfault, -, htold, hshown, -⟩ :=
      run_error_iff_isFirstFault (Request.sentNaming ["must-fail", " ", ""])
    have hrun := (hfault _ _).mpr (.names _ _ ⟨_, _, true⟩ 2 hread hversion rfl hblank)
    have hresult := congrArg Outcome.result hrun
    obtain ⟨-, hstdout, hcode, -⟩ := htold _ hresult
    exact ⟨hrun, by decide, hstdout, hcode, (hshown 2 hresult).trans (by decide)⟩
  · have hconfig : Request.configJson? ((Request.naming []).sent Request.flatConfig) =
        some Request.flatConfig := by
      rw [Request.configJson?, Request.sent, Text.charsOfUtf8_toUTF8,
        Json.read_render _ (by decide)]
      rfl
    have hrefused :
        BookConfig.ofJson (Request.maxDepth - 2) Request.flatConfig = .error .refused := rfl
    obtain ⟨-, hunread, -⟩ :=
      run_error_iff_isFirstFault ((Request.naming []).sent Request.flatConfig)
    exact ⟨hconfig, hrefused, hunread _ _ hconfig hrefused⟩
  · have hconfig : (Request.naming ["must-fail"]).IsConfig (Request.namingConfig ["must-fail"]) :=
      rfl
    have hread := (Request.ofBytes_render hconfig).trans (if_pos (by decide))
    have hnames : ∀ name ∈ Settings.default.stripped, isBlank name.toList = false := by decide
    obtain ⟨-, -, -, -, hgood⟩ := run_error_iff_isFirstFault (Request.sentNaming ["must-fail"])
    obtain ⟨preprocessor, -, hrun⟩ := hgood _ _ .default hread hversion rfl hnames
    exact ⟨hread, rfl, hnames, _, congrArg Outcome.result hrun⟩

end BookFilter
