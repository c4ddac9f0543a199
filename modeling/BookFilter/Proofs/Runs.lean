import BookFilter.Proofs.Pages
import BookFilter.Proofs.Requests
import BookFilter.Proofs.Stages

/-!
# What a run writes

A run answers every request that can be read, whose settings and version are accepted, with the book
of the request in which each content is rewritten on its own, and nothing else is changed. The text
that it writes is read back as that book. Requests for books whose chapters nest too deep are not
read at all.
-/

namespace BookFilter

open Text (isBlank)

section Depth

variable (f : String → String)

mutual

/-- Rewriting contents leaves the levels of chapters as they are. -/
theorem Item.depth_mapContent : ∀ item : Item, (item.mapContent f).depth = item.depth
  | .chapter page => page.depth_mapContent
  | .separator => rfl
  | .partTitle _ => rfl

theorem Chapter.depth_mapContent : ∀ chapter : Chapter, (chapter.mapContent f).depth = chapter.depth
  | ⟨_, _, _, subItems, _, _, _⟩ => congrArg (· + 1) (itemsDepth_mapContents subItems)

theorem itemsDepth_mapContents : ∀ items : List Item,
    itemsDepth (mapContents f items) = itemsDepth items
  | [] => rfl
  | item :: items => by
      rw [mapContents, itemsDepth, itemsDepth, item.depth_mapContent, itemsDepth_mapContents]

end

theorem Book.depth_mapContent (book : Book) : (book.mapContent f).depth = book.depth :=
  itemsDepth_mapContents f book.sections

end Depth

namespace Settings

variable {settings : Settings}

/-- With nothing to strip and no badges, contents stay as they are. -/
theorem rewrite_eq_id (hnames : ∀ name ∈ settings.stripped, isBlank name.toList = false)
    (hstripped : settings.stripped = []) (hbadges : settings.badges = false) :
    settings.rewrite (.named settings.stripped hnames) = id := by
  ext1 text
  rw [rewrite, hbadges, if_neg Bool.false_ne_true]
  exact (MarkerStripper.named settings.stripped hnames).strip_of_names_eq_nil hstripped text

end Settings

section Run

variable {request : Request} {settings : Settings} {version : Version}

/-- A request whose version and settings are accepted is answered with the book in which each
content is rewritten. -/
theorem Request.result_run (hversion : Version.parse request.context.version.toList = .ok version)
    (hsettings : Settings.ofConfig request.context.config = .ok settings)
    (hnames : ∀ name ∈ settings.stripped, isBlank name.toList = false) :
    request.run.result =
      .ok (request.book.mapContent (settings.rewrite (.named settings.stripped hnames))) := by
  have hcreated := Settings.preprocessor_eq_ok (MarkerStripper.ofNames_eq_ok hnames)
  rw [Request.run_of_version_ok hversion, Preprocessor.run_of_ok hsettings hcreated,
    Settings.process_eq_rewrite hnames hcreated]

theorem result_run_of_ofBytes {bytes : ByteArray} {book : Book}
    (hread : Request.ofBytes bytes = .ok request) (hrun : request.run.result = .ok book) :
    (run bytes).result = .ok book.toJson.render := by
  rw [run_of_ofBytes hread, Outcome.bind_of_ok hrun]
  rfl

theorem result_run_of_ofBytes_error {bytes : ByteArray} {fault : ReadFault}
    (hread : Request.ofBytes bytes = .error fault) :
    (run bytes).result = .error (.ofRead fault) := by
  rw [run_of_ofBytes_error hread]

/-- For every request whose version and settings are accepted: if the chapters of the book nest at
most as deep as there is room for, the text of the request is read as the request, otherwise it is
refused. Whatever bytes are read as the request, the run on them writes a text that is read back as
the book of the request with each content rewritten, and with nothing else changed. -/
theorem run_eq_mapContent_rewrite (request : Request) (config : Json) (settings : Settings)
    (version : Version) (hconfig : request.IsConfig config)
    (hsettings : Settings.ofConfig request.context.config = .ok settings)
    (hnames : ∀ name ∈ settings.stripped, isBlank name.toList = false)
    (hversion : Version.parse request.context.version.toList = .ok version) :
    (request.book.depth ≤ Book.maxDepth →
        Request.ofBytes (request.toJson config).render.toUTF8 = .ok request) ∧
      (Book.maxDepth < request.book.depth →
        (run (request.toJson config).render.toUTF8).result = .error .unreadable) ∧
      (∀ bytes, Request.ofBytes bytes = .ok request →
        ∃ text, (run bytes).result = .ok text ∧
          Book.ofText text =
            .ok (request.book.mapContent (settings.rewrite (.named settings.stripped hnames)))) ∧
      (settings.stripped = [] → settings.badges = false →
        request.book.mapContent (settings.rewrite (.named settings.stripped hnames)) = request.book) := by
  have hread := Request.ofBytes_render hconfig
  refine ⟨?_, ?_, ?_, ?_⟩
  · intro hdepth
    rw [hread, if_pos hdepth]
  · intro hdeep
    rw [if_neg (Nat.not_le_of_lt hdeep)] at hread
    exact result_run_of_ofBytes_error hread
  · intro bytes hbytes
    have hrun := Request.result_run hversion hsettings hnames
    refine ⟨_, result_run_of_ofBytes hbytes hrun, ?_⟩
    rw [Book.ofText_render, Book.depth_mapContent, if_pos (Request.depth_le_of_ofBytes hbytes)]
  · intro hstripped hbadges
    rw [Settings.rewrite_eq_id hnames hstripped hbadges]
    exact request.book.mapContent_id

/-- A configuration that sets a repository and two names, of which one begins like the other. -/
def Request.layeredConfig : Json :=
  .record [("preprocessor", .record [("niri-docs", .record [
    ("repository", .text "https://example.org/"),
    ("strip-annotations", .array [.text "must", .text "must-fail"])])])]

/-- A request with a chapter in a chapter. -/
def Request.layered : Request where
  context := {
    root := "/b"
    config := ⟨none, .table [("preprocessor", .table [("niri-docs", .table [
      ("repository", .string "https://example.org/"),
      ("strip-annotations", .array [.string "must", .string "must-fail"])])])]⟩
    renderer := "html"
    version := "0.4.52" }
  book := ⟨[.partTitle ",must", .chapter ⟨"Keys", "a,MUST-fail", some [1],
    [.separator, .chapter ⟨"Moves", "<sup>Since: 1.0,must</sup>", none, [], none, none, ["Keys"]⟩],
    some "keys.md", some "keys.md", []⟩]⟩

/-- The inner chapter is rewritten as well, first by the stripper and then by the badges. -/
theorem run_eq_mapContent_rewrite_layered :
    Request.layered.IsConfig Request.layeredConfig ∧
      Settings.ofConfig Request.layered.context.config =
        .ok ⟨"https://example.org/", ["must", "must-fail"], true⟩ ∧
      (∀ name ∈ ["must", "must-fail"], isBlank name.toList = false) ∧
      Version.parse Request.layered.context.version.toList = .ok ⟨0, 4, 52, [], []⟩ ∧
      ∃ text,
        (run (Request.layered.toJson Request.layeredConfig).render.toUTF8).result = .ok text ∧
          Book.ofText text = .ok ⟨[.partTitle ",must", .chapter ⟨"Keys", "a-fail", some [1],
            [.separator, .chapter ⟨"Moves",
              "<span class=\"badge\">[Since: 1.0](https://example.org/releases/tag/v1.0)</span>",
              none, [], none, none, ["Keys"]⟩],
            some "keys.md", some "keys.md", []⟩]⟩ := by
  have hconfig : Request.layered.IsConfig Request.layeredConfig := rfl
  have hsettings : Settings.ofConfig Request.layered.context.config =
      .ok ⟨"https://example.org/", ["must", "must-fail"], true⟩ := rfl
  have hnames : ∀ name ∈ ["must", "must-fail"], isBlank name.toList = false := by decide
  have hversion : Version.parse Request.layered.context.version.toList =
      .ok ⟨0, 4, 52, [], []⟩ := by
    rfl
  obtain ⟨hread, -, hrun, -⟩ :=
    run_eq_mapContent_rewrite Request.layered Request.layeredConfig _ _ hconfig hsettings hnames
      hversion
  obtain ⟨text, hresult, htext⟩ := hrun _ (hread (by decide))
  refine ⟨hconfig, hsettings, hnames, hversion, text, hresult, ?_⟩
  have houter : Settings.rewrite ⟨"https://example.org/", ["must", "must-fail"], true⟩
      (.named ["must", "must-fail"] (by decide)) "a,MUST-fail" = "a-fail" := by
    decide +kernel
  have hinner : Settings.rewrite ⟨"https://example.org/", ["must", "must-fail"], true⟩
      (.named ["must", "must-fail"] (by decide)) "<sup>Since: 1.0,must</sup>" =
        "<span class=\"badge\">[Since: 1.0](https://example.org/releases/tag/v1.0)</span>" := by
    decide +kernel
  rw [htext, ← houter, ← hinner]
  rfl

/-- Chapters one within the other. -/
def Item.nest : Nat → Item
  | 0 => .separator
  | levels + 1 => .chapter ⟨"Deep", "deep", none, [Item.nest levels], none, none, []⟩

theorem Item.depth_nest (levels : Nat) : (Item.nest levels).depth = levels := by
  induction levels with
  | zero => rfl
  | succ levels ih =>
      change max (Item.nest levels).depth 0 + 1 = levels + 1
      rw [ih, Nat.max_zero]

/-- A request with one level of chapters too many. -/
def Request.deep : Request :=
  ⟨⟨"/b", .empty, "html", "0.4.52"⟩, ⟨[Item.nest (Book.maxDepth + 1)]⟩⟩

/-- Though everything else is as it has to be, a book with too many levels is refused. -/
theorem run_deep_unreadable :
    Request.deep.IsConfig (.object []) ∧
      Settings.ofConfig Request.deep.context.config = .ok .default ∧
      (∀ name ∈ Settings.default.stripped, isBlank name.toList = false) ∧
      Version.parse Request.deep.context.version.toList = .ok ⟨0, 4, 52, [], []⟩ ∧
      (run (Request.deep.toJson (.object [])).render.toUTF8).result = .error .unreadable := by
  have hconfig : Request.deep.IsConfig (.object []) := rfl
  have hdepth : ¬ Request.deep.book.depth ≤ Book.maxDepth := by
    change ¬ max (Item.nest (Book.maxDepth + 1)).depth 0 ≤ Book.maxDepth
    rw [Item.depth_nest]
    decide
  have hread := Request.ofBytes_render hconfig
  rw [if_neg hdepth] at hread
  exact ⟨hconfig, rfl, by decide, by rfl, result_run_of_ofBytes_error hread⟩

end Run

end BookFilter
