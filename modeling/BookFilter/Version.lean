import BookFilter.Text.Quoted

/-! # Semantic versions

A version is read from the left as `MAJOR.MINOR.PATCH`, then a hyphen and a pre-release, then a plus
sign and build metadata, both of which may be missing. The first thing that does not fit is
reported. -/

namespace BookFilter

/-- A semantic version. Pre-release and build metadata are lists of segments, empty if missing. -/
structure Version where
  major : Nat
  minor : Nat
  patch : Nat
  preRelease : List (List Char)
  build : List (List Char)
deriving DecidableEq, Repr

namespace Version

/-- The parts of a version. -/
inductive Part where
  | major
  | minor
  | patch
  | preRelease
  | build
deriving DecidableEq, Repr

/-- The words for a part. -/
def Part.describe : Part → String
  | major => "major version number"
  | minor => "minor version number"
  | patch => "patch version number"
  | preRelease => "pre-release identifier"
  | build => "build metadata"

/-- Why a text is no version, or no requirement that a version can meet. -/
inductive Fault where
  | empty
  | unexpectedEnd (part : Part)
  | unexpectedIn (part : Part) (c : Char)
  | unexpectedAfter (part : Part) (c : Char)
  | leadingZero (part : Part)
  | tooLarge (part : Part)
  | emptySegment (part : Part)
  | missingComma (part : Part) (c : Char)
  | wildcardAmongOthers (wildcard : Char)
  | afterWildcard
  | tooMany
deriving DecidableEq, Repr

/-- The wording of a fault. -/
def Fault.message : Fault → String
  | empty => "empty string, expected a semver version"
  | unexpectedEnd part => s!"unexpected end of input while parsing {part.describe}"
  | unexpectedIn part c =>
      s!"unexpected character {Text.quotedChar c} while parsing {part.describe}"
  | unexpectedAfter part c => s!"unexpected character {Text.quotedChar c} after {part.describe}"
  | leadingZero part => s!"invalid leading zero in {part.describe}"
  | tooLarge part => s!"value of {part.describe} exceeds u64::MAX"
  | emptySegment part => s!"empty identifier segment in {part.describe}"
  | missingComma part c => s!"expected comma after {part.describe}, found {Text.quotedChar c}"
  | wildcardAmongOthers wildcard =>
      s!"wildcard req ({wildcard}) must be the only comparator in the version req"
  | afterWildcard => "unexpected character after wildcard in version req"
  | tooMany => "excessive number of version comparators"

/-- The bound that the numbers of a version stay below. -/
def numberBound : Nat := 0x10000000000000000

/-- The value of a decimal digit. -/
def digitValue (c : Char) : Nat :=
  c.toNat - '0'.toNat

/-- Further digits of a number. -/
def readDigits (part : Part) (value : Nat) : List Char → Except Fault (Nat × List Char)
  | [] => .ok (value, [])
  | c :: cs =>
      if c.isDigit then
        if value = 0 then .error (.leadingZero part)
        else if numberBound ≤ value * 10 + digitValue c then .error (.tooLarge part)
        else readDigits part (value * 10 + digitValue c) cs
      else .ok (value, c :: cs)

/-- A number, and the rest. -/
def readNumber (part : Part) : List Char → Except Fault (Nat × List Char)
  | [] => .error (.unexpectedEnd part)
  | c :: cs =>
      if c.isDigit then readDigits part (digitValue c) cs
      else .error (.unexpectedIn part c)

/-- What follows the point after a number. -/
def readPoint (part : Part) : List Char → Except Fault (List Char)
  | [] => .error (.unexpectedEnd part)
  | c :: cs => if c = '.' then .ok cs else .error (.unexpectedAfter part c)

/-- The characters of which segments are made. -/
def isSegmentChar (c : Char) : Bool :=
  c.isAlphanum || c = '-'

/-- Whether a segment is a number written with a leading zero. -/
def hasLeadingZero (segment : List Char) : Bool :=
  segment.all Char.isDigit && 1 < segment.length && segment.head? == some '0'

/-- The segment, unless it is empty or, in a pre-release, a number with a leading zero. -/
def checkSegment (part : Part) (segment : List Char) : Except Fault (List Char) :=
  if segment = [] then .error (.emptySegment part)
  else if part = .preRelease ∧ hasLeadingZero segment then .error (.leadingZero part)
  else .ok segment

/-- Segments with points between them, and the rest. The first segment begins with the given
characters, the latest first. -/
def readSegments (part : Part) (begun : List Char) :
    List Char → Except Fault (List (List Char) × List Char)
  | [] => do return ([← checkSegment part begun.reverse], [])
  | c :: cs =>
      if isSegmentChar c then readSegments part (c :: begun) cs
      else do
        let segment ← checkSegment part begun.reverse
        if c = '.' then
          let (segments, rest) ← readSegments part [] cs
          return (segment :: segments, rest)
        else return ([segment], c :: cs)

/-- The segments after a mark, if the mark comes; otherwise there are none. Gives back the part of
the version that was read last. -/
def readOptional (part last : Part) (mark : Char) :
    List Char → Except Fault (List (List Char) × Part × List Char)
  | [] => .ok ([], last, [])
  | c :: cs =>
      if c = mark then do
        let (segments, rest) ← readSegments part [] cs
        return (segments, part, rest)
      else .ok ([], last, c :: cs)

/-- The version that a text is. -/
def parse (text : List Char) : Except Fault Version :=
  if text = [] then .error .empty
  else do
    let (major, text) ← readNumber .major text
    let text ← readPoint .major text
    let (minor, text) ← readNumber .minor text
    let text ← readPoint .minor text
    let (patch, text) ← readNumber .patch text
    let (preRelease, last, text) ← readOptional .preRelease .patch '-' text
    let (build, last, text) ← readOptional .build last '+' text
    match text with
    | [] => return ⟨major, minor, patch, preRelease, build⟩
    | c :: _ => .error (.unexpectedAfter last c)

end Version

end BookFilter
