import BookFilter.Text.Folding
import BookFilter.Text.Pieces

/-! # Version notes and badges

A version note is a text such as `<sup>Since: 25.02</sup>`: an opening tag, a preposition with a
colon and a blank, a version, and the first closing tag after it on the same line. The tags and the
preposition are read up to case. A badge takes the place of a note and links to the release. -/

namespace BookFilter

open Text

/-- A version note as written: opening tag, preposition, separator, version, closing tag. -/
structure VersionNote where
  tag : List Char
  preposition : List Char
  separator : List Char
  version : List Char
  closer : List Char
deriving DecidableEq, Repr

namespace VersionNote

/-- The text of the note. -/
def source (note : VersionNote) : List Char :=
  note.tag ++ note.preposition ++ note.separator ++ note.version ++ note.closer

/-- Everything up to the first closing tag, the tag, and the rest, if the tag comes before the end
of the line. -/
def version? : List Char → Option (List Char × List Char × List Char)
  | [] => none
  | c :: cs =>
      match splitFolded? "</sup>".toList (c :: cs) with
      | some (closer, rest) => some ([], closer, rest)
      | none =>
          if c = '\n' then none
          else (version? cs).map fun (version, closer, rest) => (c :: version, closer, rest)

theorem version?_append {text version closer rest : List Char}
    (h : version? text = some (version, closer, rest)) : version ++ closer ++ rest = text := by
  induction text generalizing version with
  | nil => cases h
  | cons c cs ih =>
      unfold version? at h
      split at h
      · next cl r hs =>
          simp only [Option.some.injEq, Prod.mk.injEq] at h
          obtain ⟨rfl, rfl, rfl⟩ := h
          exact splitFolded?_append hs
      · split at h
        · cases h
        · simp only [Option.map_eq_some_iff, Prod.exists, Prod.mk.injEq] at h
          obtain ⟨v, cl, r, hv, rfl, rfl, rfl⟩ := h
          simpa using ih hv

/-- Opening tag, preposition and separator at the start of a text, and the rest. -/
def opener? (text : List Char) : Option (List Char × List Char × List Char × List Char) := do
  let (tag, text) ← splitFolded? "<sup>".toList text
  let (preposition, text) ←
    (splitFolded? "Until".toList text).or (splitFolded? "Since".toList text)
  let (separator, text) ← splitFolded? ": ".toList text
  return (tag, preposition, separator, text)

theorem opener?_append {text tag preposition separator rest : List Char}
    (h : opener? text = some (tag, preposition, separator, rest)) :
    tag ++ preposition ++ separator ++ rest = text ∧ tag.length = 5 := by
  simp only [opener?, Option.bind_eq_bind, Option.pure_def, Option.bind_eq_some_iff,
    Option.some.injEq, Prod.exists, Prod.mk.injEq, Option.or_eq_some_iff] at h
  obtain ⟨t, r₁, h₁, p, r₂, h₂, s, r₃, h₃, rfl, rfl, rfl, rfl⟩ := h
  refine ⟨?_, by simpa using splitFolded?_length h₁⟩
  have e₂ : p ++ r₂ = r₁ := by
    rcases h₂ with h₂ | ⟨-, h₂⟩ <;> exact splitFolded?_append h₂
  have e₁ := splitFolded?_append h₁
  have e₃ := splitFolded?_append h₃
  simp [← e₁, ← e₂, ← e₃]

/-- A version note at the start of a text, and the rest. -/
def at? (text : List Char) : Option (VersionNote × List Char) := do
  let (tag, preposition, separator, text) ← opener? text
  let (version, closer, rest) ← version? text
  return (⟨tag, preposition, separator, version, closer⟩, rest)

theorem at?_append {text : List Char} {note : VersionNote} {rest : List Char}
    (h : at? text = some (note, rest)) : note.source ++ rest = text ∧ note.tag.length = 5 := by
  simp only [at?, Option.bind_eq_bind, Option.pure_def, Option.bind_eq_some_iff,
    Option.some.injEq, Prod.exists, Prod.mk.injEq] at h
  obtain ⟨t, p, s, r, ho, v, c, r', hv, rfl, rfl⟩ := h
  obtain ⟨e₁, hlen⟩ := opener?_append ho
  have e₂ := version?_append hv
  exact ⟨by simp [source, ← e₁, ← e₂], hlen⟩

end VersionNote

/-- Recognises version notes. -/
def versionNotes : Matcher VersionNote where
  source := VersionNote.source
  at? := VersionNote.at?
  source_append h := (VersionNote.at?_append h).1
  source_ne_nil h hnil := by
    have hlen := (VersionNote.at?_append h).2
    simp only [VersionNote.source, List.append_eq_nil_iff] at hnil
    simp [hnil.1.1.1.1] at hlen

/-- Renders badges that link to the releases of a repository. -/
structure BadgeRenderer where
  /-- The address of the repository, without slashes at its end. -/
  repository : String
deriving DecidableEq, Repr

namespace BadgeRenderer

/-- The address of the repository that badges link to unless another is given. -/
def defaultRepository : String := "https://github.com/YaLTeR/niri"

/-- The version that has no release to link to yet. -/
def nextRelease : String := "next release"

/-- An address less the slashes at its end. -/
def withoutSlashes (address : List Char) : List Char :=
  (address.reverse.dropWhile (· = '/')).reverse

/-- A renderer for the repository; slashes at the end of the address do not count. -/
def ofRepository (address : String) : BadgeRenderer :=
  ⟨String.ofList (withoutSlashes address.toList)⟩

/-- The renderer for the default repository. -/
def default : BadgeRenderer :=
  ofRepository defaultRepository

/-- The badge for a version. It is a link unless the version is the next release; preposition and
version stand in it as they are. -/
def badge (renderer : BadgeRenderer) (preposition version : String) : String :=
  if version = nextRelease then
    s!"<span class=\"badge\">{preposition}: {version}</span>"
  else
    let address := s!"{renderer.repository}/releases/tag/v{version}"
    s!"<span class=\"badge\">[{preposition}: {version}]({address})</span>"

/-- The characters of the badge for a note. -/
def badgeChars (renderer : BadgeRenderer) (note : VersionNote) : List Char :=
  (renderer.badge (String.ofList note.preposition) (String.ofList note.version)).toList

/-- The characters of a text with its version notes replaced by their badges. -/
def renderChars (renderer : BadgeRenderer) (text : List Char) : List Char :=
  versionNotes.replace renderer.badgeChars text

/-- Puts badges in the place of the version notes of a text. -/
def render (renderer : BadgeRenderer) (text : String) : String :=
  String.ofList (renderer.renderChars text.toList)

end BadgeRenderer

end BookFilter
