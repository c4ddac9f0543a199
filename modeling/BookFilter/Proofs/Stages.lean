import BookFilter.Proofs.Releases

/-!
# The stages of a run

A run reads a request, checks the release of the caller, reads the settings and sets up the hooks,
and each of these stages may end it. What comes of a run is given here stage by stage: the events
so far and the fault, or what the next stage goes on with.
-/

namespace BookFilter

namespace Outcome

variable {α β : Type}

theorem bind_of_ok {outcome : Outcome α} {value : α} (h : outcome.result = .ok value)
    (next : α → Outcome β) :
    outcome >>= next = ⟨outcome.events ++ (next value).events, (next value).result⟩ := by
  change outcome.bind next = _
  rw [Outcome.bind, h]

end Outcome

namespace Settings

variable {settings : Settings}

theorem create_of_error {refusal : BlankName} (h : settings.preprocessor = .error refusal) :
    settings.create = ⟨[], .error (.names refusal)⟩ := by
  rw [create, h]
  rfl

theorem create_of_ok {preprocessor : Preprocessor} (h : settings.preprocessor = .ok preprocessor) :
    settings.create = ⟨[.created preprocessor.hookNames], .ok preprocessor⟩ := by
  rw [create, h]
  rfl

end Settings

namespace Preprocessor

variable {own preprocessor : Preprocessor} {config : BookConfig} {settings : Settings}

theorem run_of_settings_error {fault : Settings.Fault} (h : Settings.ofConfig config = .error fault)
    (book : Book) : own.run config book = ⟨[], .error (.settings fault)⟩ := by
  rw [run, h]
  rfl

theorem run_of_names_error {refusal : BlankName} (hsettings : Settings.ofConfig config = .ok settings)
    (h : settings.preprocessor = .error refusal) (book : Book) :
    own.run config book = ⟨[], .error (.names refusal)⟩ := by
  rw [run, hsettings]
  change (settings.create >>= fun preprocessor => preprocessor.processBook config book) = _
  rw [Settings.create_of_error h]
  rfl

/-- With accepted settings a run over a book reports the hooks and goes over the book, which cannot
fail. -/
theorem run_of_ok (hsettings : Settings.ofConfig config = .ok settings)
    (h : settings.preprocessor = .ok preprocessor) (book : Book) :
    own.run config book =
      ⟨.created preprocessor.hookNames :: Call.events (preprocessor.process config book).2,
        .ok (preprocessor.process config book).1⟩ := by
  rw [run, hsettings]
  change (settings.create >>= fun preprocessor => preprocessor.processBook config book) = _
  rw [Settings.create_of_ok h]
  rfl

end Preprocessor

section Run

variable {bytes : ByteArray} {request : Request} {version : Version} {settings : Settings}

theorem run_of_ofBytes_error {fault : ReadFault} (h : Request.ofBytes bytes = .error fault) :
    run bytes = ⟨[], .error (.ofRead fault)⟩ := by
  rw [run, h]
  rfl

theorem run_of_ofBytes (h : Request.ofBytes bytes = .ok request) :
    run bytes = request.run >>= fun book => pure book.toJson.render := by
  rw [run, h]
  rfl

theorem Request.run_of_version_error {fault : Version.Fault}
    (h : Version.parse request.context.version.toList = .error fault) :
    request.run = ⟨[], .error (.version request.context.version fault)⟩ := by
  rw [Request.run, checkVersion_of_error h]
  rfl

theorem Request.run_of_version_ok
    (h : Version.parse request.context.version.toList = .ok version) :
    request.run =
      ⟨version.warnings request.context.version ++
          (Preprocessor.default.run request.context.config request.book).events,
        (Preprocessor.default.run request.context.config request.book).result⟩ := by
  rw [Request.run, checkVersion_of_ok h]
  rfl

theorem run_of_version_error {fault : Version.Fault} (hread : Request.ofBytes bytes = .ok request)
    (hversion : Version.parse request.context.version.toList = .error fault) :
    run bytes = ⟨[], .error (.version request.context.version fault)⟩ := by
  rw [run_of_ofBytes hread, Request.run_of_version_error hversion]
  rfl

theorem run_of_settings_error {fault : Settings.Fault}
    (hread : Request.ofBytes bytes = .ok request)
    (hversion : Version.parse request.context.version.toList = .ok version)
    (hsettings : Settings.ofConfig request.context.config = .error fault) :
    run bytes = ⟨version.warnings request.context.version, .error (.settings fault)⟩ := by
  rw [run_of_ofBytes hread, Request.run_of_version_ok hversion,
    Preprocessor.run_of_settings_error hsettings, List.append_nil]
  rfl

theorem run_of_names_error {refusal : BlankName} (hread : Request.ofBytes bytes = .ok request)
    (hversion : Version.parse request.context.version.toList = .ok version)
    (hsettings : Settings.ofConfig request.context.config = .ok settings)
    (hnames : settings.preprocessor = .error refusal) :
    run bytes = ⟨version.warnings request.context.version, .error (.names refusal)⟩ := by
  rw [run_of_ofBytes hread, Request.run_of_version_ok hversion,
    Preprocessor.run_of_names_error hsettings hnames, List.append_nil]
  rfl

theorem run_of_preprocessor {preprocessor : Preprocessor}
    (hread : Request.ofBytes bytes = .ok request)
    (hversion : Version.parse request.context.version.toList = .ok version)
    (hsettings : Settings.ofConfig request.context.config = .ok settings)
    (hnames : settings.preprocessor = .ok preprocessor) :
    run bytes =
      ⟨version.warnings request.context.version ++ .created preprocessor.hookNames ::
          Call.events (preprocessor.process request.context.config request.book).2,
        .ok (preprocessor.process request.context.config request.book).1.toJson.render⟩ := by
  rw [run_of_ofBytes hread, Request.run_of_version_ok hversion,
    Preprocessor.run_of_ok hsettings hnames]
  exact congrArg (Outcome.mk · _) (List.append_nil _)

end Run

end BookFilter
