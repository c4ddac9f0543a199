import BookFilter.Proofs.Calls
import BookFilter.Proofs.Pages

/-!
# Pages on their own

Hooks that look neither at the content nor at the sub-items of the page they are told of do over a
book what they do to each text on its own. Whatever the hooks look at, the content of a chapter
has a say in what becomes of that chapter and of those that hold it, and of no other one.
-/

namespace BookFilter

/-- The hook looks neither at the content nor at the sub-items of the page it is told of. -/
def PageHook.IsBlindToContent (hook : PageHook) : Prop :=
  ∀ text page config files subItems content,
    hook.onPage text ⟨(page.withSubItems subItems).withContent content, config, files⟩ =
      hook.onPage text ⟨page, config, files⟩

/-- The hooks that come with the library. -/
inductive PageHook.IsBuiltIn : PageHook → Prop
  | strip (stripper : MarkerStripper) : IsBuiltIn stripper.hook
  | badges (renderer : BadgeRenderer) : IsBuiltIn renderer.hook

theorem PageHook.IsBuiltIn.isTextOnly {hook : PageHook} (h : hook.IsBuiltIn) :
    hook.IsTextOnly := by
  cases h with
  | strip stripper => exact fun _ _ _ => rfl
  | badges renderer => exact fun _ _ _ => rfl

theorem PageHook.IsTextOnly.isBlindToContent {hook : PageHook} (h : hook.IsTextOnly) :
    hook.IsBlindToContent :=
  fun text _ _ _ _ _ => h text _ _

namespace Preprocessor

variable {hooks : List PageHook}

theorem onText_cons (hook : PageHook) (hooks : List PageHook) (text : String)
    (context : PageContext) :
    onText ⟨hook :: hooks⟩ text context = onText ⟨hooks⟩ (hook.onPage text context) context :=
  rfl

theorem onText_context (h : ∀ hook ∈ hooks, hook.IsTextOnly) (text : String)
    (context other : PageContext) :
    onText ⟨hooks⟩ text context = onText ⟨hooks⟩ text other := by
  induction hooks generalizing text with
  | nil => rfl
  | cons hook hooks ih =>
      have hhooks := ih fun next hnext => h next (List.mem_cons_of_mem _ hnext)
      rw [onText_cons, onText_cons, h hook (List.mem_cons_self ..) text context other, hhooks]

/-- Over a chapter, hooks that are blind to contents do what they do to its text if they are told of
the chapter as it was. -/
theorem onChapter_content_of_blind (h : ∀ hook ∈ hooks, hook.IsBlindToContent)
    (config : BookConfig) (files : List String) (page : Chapter) (subItems : List Item)
    (content : String) :
    (onChapter config files hooks ((page.withSubItems subItems).withContent content)).1.content =
      onText ⟨hooks⟩ content ⟨page, config, files⟩ := by
  induction hooks generalizing content with
  | nil => rfl
  | cons hook hooks ih =>
      have hhook := h hook (List.mem_cons_self ..)
      have hhooks := ih fun next hnext => h next (List.mem_cons_of_mem _ hnext)
      have hresult := hhook content page config files subItems content
      rw [onText_cons, ← hhooks, onChapter_cons config files hook hooks _ hresult]
      rfl

theorem contentAt?_process_of_blind {preprocessor : Preprocessor}
    (h : ∀ hook ∈ preprocessor.hooks, hook.IsBlindToContent) (config : BookConfig) (book : Book)
    (position : Position) :
    (preprocessor.process config book).1.contentAt? position =
      (book.chapterAt? position).map fun page =>
        preprocessor.onText page.content ⟨page, config, book.sourcePaths⟩ := by
  rw [Book.contentAt?, chapterAt?_process, Option.map_map]
  congr 1
  ext1 page
  rw [Function.comp_apply, Chapter.mapInsideOut_eq]
  exact onChapter_content_of_blind h config book.sourcePaths page _ page.content

theorem contentAt?_process_of_textOnly {preprocessor : Preprocessor}
    (h : ∀ hook ∈ preprocessor.hooks, hook.IsTextOnly) (config : BookConfig) (book : Book)
    (position : Position) (context : PageContext) :
    (preprocessor.process config book).1.contentAt? position =
      (book.contentAt? position).map fun text => preprocessor.onText text context := by
  have hblind := fun hook hmem => (h hook hmem).isBlindToContent
  rw [contentAt?_process_of_blind hblind, Book.contentAt?, Option.map_map]
  congr 1
  ext1 page
  exact onText_context h _ _ _

/-- Every chapter of a processed book has the content that the hooks make of its text on its own,
told of the chapter as it was and of the source files of the book as it was. -/
theorem process_content_eq_onText {preprocessor : Preprocessor}
    (h : ∀ hook ∈ preprocessor.hooks, hook.IsBuiltIn ∨ hook.IsBlindToContent)
    (config : BookConfig) (book : Book) (position : Position) :
    (preprocessor.process config book).1.contentAt? position =
      (book.chapterAt? position).map fun page =>
        preprocessor.onText page.content ⟨page, config, book.sourcePaths⟩ := by
  apply contentAt?_process_of_blind
  intro hook hmem
  rcases h hook hmem with hbuiltIn | hblind
  · exact hbuiltIn.isTextOnly.isBlindToContent
  · exact hblind

end Preprocessor

/-- Signs a text with the name of its page and the source files of the book. -/
def PageHook.signature : PageHook :=
  ⟨"signature", fun text context =>
    text ++ " -- " ++ context.page.name ++ " of " ++ ", ".intercalate context.files⟩

/-- A book with a chapter in a chapter, and one after them. -/
def Book.nested : Book :=
  ⟨[.partTitle "Use", .chapter ⟨"Keys", "a,must-fail", none,
    [.chapter ⟨"Moves", "b,MUST-fail", none, [], none, some "moves.md", ["Keys"]⟩],
    none, some "keys.md", []⟩, .chapter ⟨"End", "c", none, [], none, none, []⟩]⟩

namespace Preprocessor

/-- The inner chapter is signed as it would be on its own, with the files of the whole book. -/
theorem process_content_eq_onText_signature :
    (∀ hook ∈ [MarkerStripper.default.hook, PageHook.signature],
      hook.IsBuiltIn ∨ hook.IsBlindToContent) ∧
    ((Preprocessor.mk [MarkerStripper.default.hook, PageHook.signature]).process
      ⟨none, .table []⟩ Book.nested).1.contentAt? [1, 0] =
        some "b -- Moves of keys.md, moves.md" := by
  have hhooks : ∀ hook ∈ [MarkerStripper.default.hook, PageHook.signature],
      hook.IsBuiltIn ∨ hook.IsBlindToContent := by
    intro hook hmem
    simp only [List.mem_cons, List.not_mem_nil, or_false] at hmem
    rcases hmem with rfl | rfl
    · exact Or.inl (.strip _)
    · exact Or.inr fun _ _ _ _ _ _ => rfl
  refine ⟨hhooks, ?_⟩
  rw [process_content_eq_onText hhooks]
  decide +kernel

end Preprocessor

/-- An item with another content for the chapter at a position in it. -/
def Item.withContentAt (content : String) : Item → Position → Item
  | .chapter page, [] => .chapter (page.withContent content)
  | .chapter page, i :: rest =>
      .chapter (page.withSubItems (page.subItems.modify i fun inner =>
        inner.withContentAt content rest))
  | item, _ => item

/-- A book with another content for the chapter at a position. -/
def Book.withContentAt (book : Book) (content : String) : Position → Book
  | [] => book
  | i :: rest => ⟨book.sections.modify i fun item => item.withContentAt content rest⟩

section Positions

variable {α : Type} {view : Chapter → α} {content : String}

theorem map_chapterAmong?_modify {f : Item → Item} {i j : Nat} {rest : Position}
    (h : i = j → ∀ item,
      ((f item).chapterAt? rest).map view = (item.chapterAt? rest).map view) (items : List Item) :
    (chapterAmong? (items.modify i f) (j :: rest)).map view =
      (chapterAmong? items (j :: rest)).map view := by
  rw [chapterAmong?, chapterAmong?, List.getElem?_modify]
  cases items[j]? with
  | none => rfl
  | some item =>
      rw [Option.map_eq_map, Option.map_some]
      by_cases hij : i = j
      · rw [if_pos hij]
        exact h hij item
      · rw [if_neg hij]

/-- Another content for a chapter is seen at no position by a view that shows neither the content of
that chapter nor the sub-items of those that hold it. -/
theorem Item.map_chapterAt?_withContentAt {position other : Position}
    (hself : other = position → ∀ page content, view (page.withContent content) = view page)
    (houter : other <+: position → other ≠ position →
      ∀ page subItems, view (page.withSubItems subItems) = view page) (item : Item) :
    ((item.withContentAt content position).chapterAt? other).map view =
      (item.chapterAt? other).map view := by
  induction position generalizing item other with
  | nil =>
      cases item with
      | separator => rfl
      | partTitle title => rfl
      | chapter page =>
          cases other with
          | nil => exact congrArg some (hself rfl page content)
          | cons j after => rfl
  | cons i rest ih =>
      cases item with
      | separator => rfl
      | partTitle title => rfl
      | chapter page =>
          cases other with
          | nil => exact congrArg some (houter List.nil_prefix (List.cons_ne_nil _ _).symm page _)
          | cons j after =>
              apply map_chapterAmong?_modify
              rintro rfl inner
              apply ih
              · rintro rfl
                exact hself rfl
              · intro hprefix hne
                exact houter (List.cons_prefix_cons.mpr ⟨rfl, hprefix⟩) (by simpa using hne)

theorem Book.map_chapterAt?_withContentAt {position other : Position}
    (hself : other = position → ∀ page content, view (page.withContent content) = view page)
    (houter : other <+: position → other ≠ position →
      ∀ page subItems, view (page.withSubItems subItems) = view page) (book : Book) :
    ((book.withContentAt content position).chapterAt? other).map view =
      (book.chapterAt? other).map view := by
  cases position with
  | nil => rfl
  | cons i rest =>
      cases other with
      | nil => rfl
      | cons j after =>
          apply map_chapterAmong?_modify
          rintro rfl item
          apply item.map_chapterAt?_withContentAt
          · rintro rfl
            exact hself rfl
          · intro hprefix hne
            exact houter (List.cons_prefix_cons.mpr ⟨rfl, hprefix⟩) (by simpa using hne)

theorem Book.chapterAt?_withContentAt {position other : Position} (h : ¬ other <+: position)
    (book : Book) :
    (book.withContentAt content position).chapterAt? other = book.chapterAt? other := by
  have hself : other ≠ position := by
    rintro rfl
    exact h (List.prefix_refl other)
  have hmap : ((book.withContentAt content position).chapterAt? other).map id =
      (book.chapterAt? other).map id :=
    book.map_chapterAt?_withContentAt (fun heq => absurd heq hself)
      fun hprefix => absurd hprefix h
  simpa only [Option.map_id_fun, id] using hmap

theorem Book.contentAt?_withContentAt {position other : Position} (h : other ≠ position)
    (book : Book) :
    (book.withContentAt content position).contentAt? other = book.contentAt? other := by
  apply book.map_chapterAt?_withContentAt
  · intro heq
    exact absurd heq h
  · intro _ _ page subItems
    rfl

/-- Another content leaves the list of source files as it is. -/
theorem Book.sourcePaths_withContentAt (book : Book) (content : String) (position : Position) :
    (book.withContentAt content position).sourcePaths = book.sourcePaths := by
  have hfiles : ∀ other,
      ((book.withContentAt content position).chapterAt? other).map Chapter.sourcePath =
        (book.chapterAt? other).map Chapter.sourcePath := fun other =>
    book.map_chapterAt?_withContentAt (fun _ _ _ => rfl) fun _ _ _ _ => rfl
  have hpositions := (book.isEnumeration_places .outsideIn).unique
    ((book.withContentAt content position).isEnumeration_places .outsideIn) fun other => by
      have hsome := congrArg Option.isSome (hfiles other)
      rw [Option.isSome_map, Option.isSome_map] at hsome
      rw [← Option.isSome_iff_exists, ← Option.isSome_iff_exists, hsome]
  rw [Book.sourcePaths_eq_filterMap, Book.sourcePaths_eq_filterMap, ← hpositions]
  apply List.filterMap_congr
  intro other _
  calc ((book.withContentAt content position).chapterAt? other).bind Chapter.sourcePath
      = (((book.withContentAt content position).chapterAt? other).map Chapter.sourcePath).bind id :=
        by rw [Option.bind_map, Function.id_comp]
    _ = ((book.chapterAt? other).map Chapter.sourcePath).bind id := by rw [hfiles other]
    _ = (book.chapterAt? other).bind Chapter.sourcePath := by
        rw [Option.bind_map, Function.id_comp]

end Positions

/-- Adds the contents of the sub-items of its page to a text. -/
def PageHook.summary : PageHook :=
  ⟨"summary", fun text context =>
    text ++ String.join ((context.page.subItems.filterMap Item.chapter?).map Chapter.content)⟩

namespace Preprocessor

/-- The content of a chapter has no say in what becomes of chapters that do not hold it. If all
hooks are built in, it has a say in what becomes of the chapter itself only. -/
theorem process_withContentAt (preprocessor : Preprocessor) (config : BookConfig) (book : Book)
    (content : String) (position : Position) :
    (∀ other, ¬ other <+: position →
      (preprocessor.process config (book.withContentAt content position)).1.contentAt? other =
        (preprocessor.process config book).1.contentAt? other) ∧
    ((∀ hook ∈ preprocessor.hooks, hook.IsBuiltIn) → ∀ other ≠ position,
      (preprocessor.process config (book.withContentAt content position)).1.contentAt? other =
        (preprocessor.process config book).1.contentAt? other) := by
  constructor
  · intro other hprefix
    have hchange : preprocessor.change config (book.withContentAt content position) =
        preprocessor.change config book := by
      ext1 page
      rw [change, change, book.sourcePaths_withContentAt]
    rw [Book.contentAt?, Book.contentAt?, chapterAt?_process, chapterAt?_process, hchange,
      book.chapterAt?_withContentAt hprefix]
  · intro hbuiltIn other hne
    have htext := fun hook hmem => (hbuiltIn hook hmem).isTextOnly
    let context : PageContext := ⟨⟨"", "", none, [], none, none, []⟩, config, []⟩
    rw [contentAt?_process_of_textOnly htext config _ other context,
      contentAt?_process_of_textOnly htext config _ other context,
      book.contentAt?_withContentAt hne]

/-- A hook that shows sub-items carries the content of a chapter to those that hold it, and no
further. Built-in hooks do not even carry it there: the outer chapter is stripped as before. -/
theorem process_withContentAt_summary :
    Book.nested.withContentAt "new" [1, 0] =
      ⟨[.partTitle "Use", .chapter ⟨"Keys", "a,must-fail", none,
        [.chapter ⟨"Moves", "new", none, [], none, some "moves.md", ["Keys"]⟩],
        none, some "keys.md", []⟩, .chapter ⟨"End", "c", none, [], none, none, []⟩]⟩ ∧
    ((Preprocessor.mk [PageHook.summary]).process ⟨none, .table []⟩
        (Book.nested.withContentAt "new" [1, 0])).1.contentAt? [1] ≠
      ((Preprocessor.mk [PageHook.summary]).process ⟨none, .table []⟩
        Book.nested).1.contentAt? [1] ∧
    ((Preprocessor.mk [PageHook.summary]).process ⟨none, .table []⟩
        (Book.nested.withContentAt "new" [1, 0])).1.contentAt? [2] =
      ((Preprocessor.mk [PageHook.summary]).process ⟨none, .table []⟩
        Book.nested).1.contentAt? [2] ∧
    (∀ hook ∈ default.hooks, hook.IsBuiltIn) ∧
    (default.process ⟨none, .table []⟩ (Book.nested.withContentAt "new" [1, 0])).1.contentAt? [1] =
      some "a" ∧
    (default.process ⟨none, .table []⟩ Book.nested).1.contentAt? [1] = some "a" := by
  have hbuiltIn : ∀ hook ∈ default.hooks, hook.IsBuiltIn := by
    intro hook hmem
    simp only [default, List.mem_cons, List.not_mem_nil, or_false] at hmem
    rcases hmem with rfl | rfl
    · exact .strip _
    · exact .badges _
  have hbefore : (default.process ⟨none, .table []⟩ Book.nested).1.contentAt? [1] = some "a" := by
    decide +kernel
  obtain ⟨hsummary, -⟩ := process_withContentAt ⟨[PageHook.summary]⟩ ⟨none, .table []⟩ Book.nested
    "new" [1, 0]
  obtain ⟨-, hdefault⟩ := process_withContentAt default ⟨none, .table []⟩ Book.nested "new" [1, 0]
  refine ⟨rfl, by decide +kernel, hsummary [2] (by decide), hbuiltIn, ?_, hbefore⟩
  exact (hdefault hbuiltIn [1] (by decide)).trans hbefore

end Preprocessor

end BookFilter
