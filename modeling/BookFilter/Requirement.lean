import BookFilter.Version

/-! # Version requirements

A requirement is a list of comparators with commas between them, and a version has to meet all of
them. A comparator is a sign and a version whose later numbers may be missing or wildcards; without
a sign it asks for a version that can take the place of the one that is written. A pre-release meets
a requirement only if one of the comparators names a pre-release with the same three numbers. -/

namespace BookFilter

namespace Version

/-- Whether a segment of a pre-release comes before another. Numbers come before words and are in
order of their values, words in order of their characters. -/
def segmentPrecedes (segment other : List Char) : Bool :=
  let precedes := segment.lex other fun c d => c.toNat < d.toNat
  match segment.all Char.isDigit, other.all Char.isDigit with
  | true, true => segment.length < other.length || segment.length = other.length && precedes
  | true, false => true
  | false, true => false
  | false, false => precedes

/-- Whether a pre-release comes before another; the release itself comes after all of them. -/
def preReleasePrecedes : List (List Char) → List (List Char) → Bool
  | [], _ => false
  | _ :: _, [] => true
  | segments, others => segments.lex others segmentPrecedes

end Version

/-- How a version is compared. -/
inductive Sign where
  | exact
  | greater
  | greaterEqual
  | less
  | lessEqual
  | tilde
  | caret
  | wildcard
deriving DecidableEq, Repr

/-- A sign, and what a version is compared with. Numbers that are missing are not compared. -/
structure Comparator where
  sign : Sign
  major : Nat
  minor : Option Nat
  patch : Option Nat
  preRelease : List (List Char)
deriving DecidableEq, Repr

namespace Comparator

open Version

/-- Whether the version is the one that is written, up to the numbers that are missing. -/
def isExact (comparator : Comparator) (version : Version) : Bool :=
  version.major = comparator.major && comparator.minor.all (version.minor = ·) &&
    comparator.patch.all (version.patch = ·) && version.preRelease = comparator.preRelease

/-- Whether the version is past all that the comparator stands for, in a direction that is given for
numbers and for pre-releases. The first difference decides. -/
def isPast (number : Nat → Nat → Bool) (preRelease : List (List Char) → List (List Char) → Bool)
    (comparator : Comparator) (version : Version) : Bool :=
  if version.major ≠ comparator.major then number comparator.major version.major
  else
    match comparator.minor with
    | none => false
    | some minor =>
        if version.minor ≠ minor then number minor version.minor
        else
          match comparator.patch with
          | none => false
          | some patch =>
              if version.patch ≠ patch then number patch version.patch
              else preRelease comparator.preRelease version.preRelease

/-- Whether the version is newer. -/
def isNewer : Comparator → Version → Bool :=
  isPast (fun written number => written < number) preReleasePrecedes

/-- Whether the version is older. -/
def isOlder : Comparator → Version → Bool :=
  isPast (fun written number => number < written)
    fun written preRelease => preReleasePrecedes preRelease written

/-- Whether the version is a patch of the one that is written, or that one itself. -/
def isPatch (comparator : Comparator) (version : Version) : Bool :=
  version.major = comparator.major && comparator.minor.all (version.minor = ·) &&
    if comparator.patch.all (version.patch = ·) then
      !preReleasePrecedes version.preRelease comparator.preRelease
    else comparator.patch.all (· < version.patch)

/-- Whether the version can take the place of the one that is written: it is not older, and the
first of its numbers that is not zero is the same. -/
def isCompatible (comparator : Comparator) (version : Version) : Bool :=
  version.major = comparator.major &&
    match comparator.minor, comparator.patch with
    | none, _ => true
    | some minor, none =>
        if 0 < comparator.major then minor ≤ version.minor else version.minor = minor
    | some minor, some patch =>
        if version.minor ≠ minor then 0 < comparator.major && minor < version.minor
        else if version.patch ≠ patch then
          (0 < comparator.major || 0 < minor) && patch < version.patch
        else !preReleasePrecedes version.preRelease comparator.preRelease

/-- Whether a version meets the comparator. -/
def isMetBy (comparator : Comparator) (version : Version) : Bool :=
  match comparator.sign with
  | .exact | .wildcard => comparator.isExact version
  | .greater => comparator.isNewer version
  | .greaterEqual => comparator.isExact version || comparator.isNewer version
  | .less => comparator.isOlder version
  | .lessEqual => comparator.isExact version || comparator.isOlder version
  | .tilde => comparator.isPatch version
  | .caret => comparator.isCompatible version

/-- Whether the comparator names a pre-release with the same three numbers. -/
def admitsPreRelease (comparator : Comparator) (version : Version) : Bool :=
  comparator.major = version.major && comparator.minor = some version.minor &&
    comparator.patch = some version.patch && !comparator.preRelease.isEmpty

end Comparator

/-- What is asked of a version: to meet all of the comparators. -/
structure Requirement where
  comparators : List Comparator
deriving DecidableEq, Repr

namespace Requirement

open Version

/-- Whether a version meets the requirement. -/
def isMetBy (requirement : Requirement) (version : Version) : Bool :=
  requirement.comparators.all (·.isMetBy version) &&
    (version.preRelease.isEmpty || requirement.comparators.any (·.admitsPreRelease version))

/-- A text less the blanks that it begins with. -/
def skipBlanks (text : List Char) : List Char :=
  text.dropWhile (· = ' ')

/-- A sign, if the text begins with one, and the rest. -/
def readSign : List Char → Option Sign × List Char
  | '=' :: text => (some .exact, text)
  | '>' :: '=' :: text => (some .greaterEqual, text)
  | '>' :: text => (some .greater, text)
  | '<' :: '=' :: text => (some .lessEqual, text)
  | '<' :: text => (some .less, text)
  | '~' :: text => (some .tilde, text)
  | '^' :: text => (some .caret, text)
  | text => (none, text)

/-- A wildcard at the start of a text, and the rest. -/
def wildcard? : List Char → Option (Char × List Char)
  | c :: text => if c = '*' ∨ c = 'x' ∨ c = 'X' then some (c, text) else none
  | [] => none

/-- What stands for a number after the first. -/
inductive Slot where
  | missing
  | wild
  | number (value : Nat)
deriving DecidableEq, Repr

/-- The number, if there is one. -/
def Slot.value? : Slot → Option Nat
  | number value => some value
  | _ => none

/-- The part that has been read last, where `before` was read before. -/
def Slot.last (part before : Part) : Slot → Part
  | missing => before
  | _ => part

/-- A number behind a point, or a wildcard in its place. No number can follow a wildcard. -/
def readSlot (part : Part) (afterWild : Bool) : List Char → Except Fault (Slot × List Char)
  | [] => .ok (.missing, [])
  | c :: text =>
      if c = '.' then
        match wildcard? text with
        | some (_, rest) => .ok (.wild, rest)
        | none =>
            if afterWild then .error .afterWildcard
            else do
              let (value, rest) ← readNumber part text
              return (.number value, rest)
      else .ok (.missing, c :: text)

/-- A comparator with the part of it that is read last, and the rest. Build metadata is read over. -/
def readComparator (text : List Char) : Except Fault (Comparator × Part × List Char) := do
  let (sign, text) := readSign text
  let (major, text) ← readNumber .major (skipBlanks text)
  let (minor, text) ← readSlot .minor false text
  let (patch, text) ← readSlot .patch (minor = .wild) text
  let sign := sign.getD (if minor = .wild ∨ patch = .wild then .wildcard else .caret)
  match patch with
  | .number _ => do
      let (preRelease, last, text) ← readOptional .preRelease .patch '-' text
      let (_, last, text) ← readOptional .build last '+' text
      return (⟨sign, major, minor.value?, patch.value?, preRelease⟩, last, skipBlanks text)
  | _ =>
      return (⟨sign, major, minor.value?, patch.value?, []⟩,
        patch.last .patch (minor.last .minor .major), skipBlanks text)

/-- The fault that is reported in place of another where a wildcard is one of several comparators. -/
def faultAt (text : List Char) (fault : Fault) : Fault :=
  match wildcard? text with
  | some (wildcard, rest) =>
      match skipBlanks rest with
      | [] => .wildcardAmongOthers wildcard
      | c :: _ => if c = ',' then .wildcardAmongOthers wildcard else fault
  | none => fault

/-- Comparators with commas between them, at most `room` of them. -/
def readComparators : (room : Nat) → List Char → Except Fault (List Comparator)
  | 0, _ => .error .tooMany
  | room + 1, text => do
      let (comparator, last, rest) ← (readComparator text).mapError (faultAt text)
      match rest with
      | [] => return [comparator]
      | c :: rest =>
          if c = ',' then return comparator :: (← readComparators room (skipBlanks rest))
          else .error (.missingComma last c)

/-- How many comparators a requirement has at most. -/
def maxComparators : Nat := 32

/-- The requirement that a text is. A wildcard on its own is met by every release. -/
def parse (text : List Char) : Except Fault Requirement :=
  match wildcard? (skipBlanks text) with
  | some (wildcard, rest) =>
      match skipBlanks rest with
      | [] => .ok ⟨[]⟩
      | c :: _ => .error (if c = ',' then .wildcardAmongOthers wildcard else .afterWildcard)
  | none => do return ⟨← readComparators maxComparators (skipBlanks text)⟩

end Requirement

end BookFilter
