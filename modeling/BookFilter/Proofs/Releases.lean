import BookFilter.Proofs.Versions
import BookFilter.Run

/-!
# Which releases pass

A version that is read as a requirement makes one comparator. If it is a release, that comparator is
met by the releases that can take its place: those that are not older and have the same first number
that is not zero. The release of the caller is compared in this way with the one that the library is
made for.
-/

namespace BookFilter

open Version

/-- What a version asks of others when it is read as a requirement. -/
def Comparator.ofVersion (version : Version) : Comparator :=
  ⟨.caret, version.major, some version.minor, some version.patch, version.preRelease⟩

namespace Requirement

section Reading

variable {c : Char} {text rest : List Char} {part : Part} {n : Nat} {version : Version}

theorem readSign_of_isDigit (hc : c.isDigit) : readSign (c :: text) = (none, c :: text) := by
  unfold readSign
  split
  case h_8 => rfl
  all_goals
    next heq =>
      cases heq
      cases hc

theorem wildcard?_of_isDigit (hc : c.isDigit) : wildcard? (c :: text) = none := by
  rw [wildcard?, if_neg]
  rintro (rfl | rfl | rfl) <;> cases hc

theorem skipBlanks_of_isDigit (hc : c.isDigit) : skipBlanks (c :: text) = c :: text := by
  have hne : c ≠ ' ' := by
    rintro rfl
    cases hc
  rw [skipBlanks, List.dropWhile_cons_of_neg (by simpa using hne)]

theorem exists_cons_of_readNumber (h : readNumber part text = .ok (n, rest)) :
    ∃ c cs, text = c :: cs ∧ c.isDigit := by
  cases text with
  | nil => cases h
  | cons c cs =>
      rw [readNumber] at h
      split at h
      · next hc => exact ⟨c, cs, rfl, hc⟩
      · cases h

theorem readSlot_point (h : readNumber part text = .ok (n, rest)) :
    readSlot part false ('.' :: text) = .ok (.number n, rest) := by
  obtain ⟨c, cs, rfl, hc⟩ := exists_cons_of_readNumber h
  rw [readSlot, if_pos rfl, wildcard?_of_isDigit hc]
  simp only [Bool.false_eq_true, if_false, h, ok_bind]
  rfl

/-- The text of a version begins with a digit, so neither a sign nor blanks nor a wildcard do. -/
theorem exists_print_eq_cons (h : version.IsValid) :
    ∃ c cs, version.print = c :: cs ∧ c.isDigit :=
  exists_cons_of_readNumber (readNumber_point .major h.major_lt _)

theorem skipBlanks_print (h : version.IsValid) : skipBlanks version.print = version.print := by
  obtain ⟨c, cs, hcons, hc⟩ := exists_print_eq_cons h
  rw [hcons, skipBlanks_of_isDigit hc]

/-- The text of a version is read as one comparator. -/
theorem readComparator_print (h : version.IsValid) :
    ∃ last, readComparator version.print = .ok (.ofVersion version, last, []) := by
  have hmajor := readNumber_point .major h.major_lt
  have hminor := readNumber_point .minor h.minor_lt
  obtain ⟨c, cs, hcons, hc⟩ := exists_print_eq_cons h
  have hsign : readSign version.print = (none, version.print) := by
    rw [hcons, readSign_of_isDigit hc]
  refine ⟨if version.build = [] then if version.preRelease = [] then .patch else .preRelease
    else .build, ?_⟩
  rw [readComparator, hsign]
  simp only [skipBlanks_print h]
  simp only [print, hmajor, readSlot_point (hminor _), reduceCtorEq, decide_false,
    readSlot_point (readNumber_patch h), readOptional_preRelease h, readOptional_build h, ok_bind]
  rfl

/-- The text of a version is read as the requirement of its one comparator. -/
theorem parse_print (h : version.IsValid) : parse version.print = .ok ⟨[.ofVersion version]⟩ := by
  obtain ⟨c, cs, hcons, hc⟩ := exists_print_eq_cons h
  obtain ⟨last, hcomparator⟩ := readComparator_print h
  have hwildcard : wildcard? version.print = none := by
    rw [hcons, wildcard?_of_isDigit hc]
  have hcomparators : readComparators maxComparators version.print =
      .ok [.ofVersion version] := by
    rw [maxComparators, readComparators, hcomparator]
    rfl
  rw [parse, skipBlanks_print h, hwildcard]
  simp only [hcomparators, ok_bind]
  rfl

end Reading

section Comparison

variable {written version : Version}

theorem isCompatible_ofVersion_iff (hversion : version.preRelease = []) :
    (Comparator.ofVersion written).isCompatible version ↔ version.major = written.major ∧
      (written.major = 0 → version.minor = written.minor ∧
        (written.minor = 0 → version.patch = written.patch)) ∧
      (written.minor < version.minor ∨
        version.minor = written.minor ∧ written.patch ≤ version.patch) := by
  have hprecedes : preReleasePrecedes version.preRelease written.preRelease = false := by
    rw [hversion, preReleasePrecedes]
  change (decide (version.major = written.major) &&
    if version.minor ≠ written.minor then 0 < written.major && written.minor < version.minor
    else if version.patch ≠ written.patch then
      (0 < written.major || 0 < written.minor) && written.patch < version.patch
    else !preReleasePrecedes version.preRelease written.preRelease) = true ↔ _
  rw [hprecedes, Bool.and_eq_true, decide_eq_true_eq]
  by_cases hminor : version.minor = written.minor
  · by_cases hpatch : version.patch = written.patch
    · simp [hminor, hpatch]
    · rw [if_neg (by simpa using hminor), if_pos hpatch]
      simp only [Bool.and_eq_true, Bool.or_eq_true, decide_eq_true_eq]
      omega
  · rw [if_pos hminor]
    simp only [Bool.and_eq_true, decide_eq_true_eq]
    omega

/-- A release asks for the releases that are not older and have the same first number that is not
zero. -/
theorem isMetBy_ofVersion_iff (hwritten : written.preRelease = []) :
    (Requirement.mk [.ofVersion written]).isMetBy version ↔
      version.preRelease = [] ∧ version.major = written.major ∧
        (written.major = 0 → version.minor = written.minor ∧
          (written.minor = 0 → version.patch = written.patch)) ∧
        (written.minor < version.minor ∨
          version.minor = written.minor ∧ written.patch ≤ version.patch) := by
  have hadmits : (Comparator.ofVersion written).admitsPreRelease version = false := by
    simp [Comparator.admitsPreRelease, Comparator.ofVersion, hwritten]
  have hmet : (Comparator.ofVersion written).isMetBy version =
      (Comparator.ofVersion written).isCompatible version := rfl
  simp only [isMetBy, List.all_cons, List.all_nil, List.any_cons, List.any_nil, hadmits, hmet,
    Bool.and_true, Bool.or_false, Bool.and_eq_true, List.isEmpty_iff]
  constructor
  · rintro ⟨hcompatible, hrelease⟩
    exact ⟨hrelease, (isCompatible_ofVersion_iff hrelease).mp hcompatible⟩
  · rintro ⟨hrelease, hnumbers⟩
    exact ⟨(isCompatible_ofVersion_iff hrelease).mpr hnumbers, hrelease⟩

end Comparison

/-- What is asked by the release that the library is made for. -/
def own : Requirement :=
  ⟨[.ofVersion ⟨0, 4, 52, [], []⟩]⟩

theorem parse_builtAgainst : parse builtAgainst.toList = .ok own := by
  obtain ⟨hvalid, hprint⟩ : (⟨0, 4, 52, [], []⟩ : Version).IsWritten builtAgainst := of_parse rfl
  rw [← hprint, parse_print hvalid, own]

theorem isMetBy_own_iff {version : Version} : own.isMetBy version ↔
    version.major = 0 ∧ version.minor = 4 ∧ 52 ≤ version.patch ∧ version.preRelease = [] := by
  rw [own, isMetBy_ofVersion_iff rfl]
  change version.preRelease = [] ∧ version.major = 0 ∧
    (0 = 0 → version.minor = 4 ∧ (4 = 0 → version.patch = 52)) ∧
      (4 < version.minor ∨ version.minor = 4 ∧ 52 ≤ version.patch) ↔ _
  constructor
  · rintro ⟨hrelease, hmajor, hsame, hnewer⟩
    obtain ⟨hminor, -⟩ := hsame rfl
    exact ⟨hmajor, hminor, by omega, hrelease⟩
  · rintro ⟨hmajor, hminor, hpatch, hrelease⟩
    exact ⟨hrelease, hmajor, fun _ => ⟨hminor, fun h => by cases h⟩, .inr ⟨hminor, hpatch⟩⟩

end Requirement

/-- The warning about a release that does not meet the requirement, if it is one. -/
def Version.warnings (version : Version) (calling : String) : List Event :=
  if Requirement.own.isMetBy version then [] else [.mismatch calling]

theorem Version.warnings_eq_nil_or (version : Version) (calling : String) :
    version.warnings calling = [] ∨ version.warnings calling = [.mismatch calling] := by
  unfold warnings
  split
  · exact .inl rfl
  · exact .inr rfl

theorem checkVersion_of_error {calling : String} {fault : Version.Fault}
    (h : Version.parse calling.toList = .error fault) :
    checkVersion calling = ⟨[], .error (.version calling fault)⟩ := by
  rw [checkVersion, h]
  rfl

/-- With a version the check goes through, for there is a requirement to compare it with. -/
theorem checkVersion_of_ok {calling : String} {version : Version}
    (h : Version.parse calling.toList = .ok version) :
    checkVersion calling = ⟨version.warnings calling, .ok ()⟩ := by
  rw [checkVersion, h, Requirement.parse_builtAgainst, Version.warnings]
  change (if Requirement.own.isMetBy version then pure () else Outcome.report _) = _
  split <;> rfl

/-- The release of the caller passes exactly if its text is that of a valid version, and there is no
other version with this text. The release that the library is made for makes a requirement, which is
met by the versions of the 0.4 series from 0.4.52 on that are no pre-releases. Such a version is
passed over in silence; otherwise there is one warning, which names it. A release that does not pass
is named in the fault, and nothing is reported of it. -/
theorem checkVersion_ok_iff_isWritten (calling : String) :
    ((checkVersion calling).result = .ok () ↔ ∃ version : Version, version.IsWritten calling) ∧
    (∀ version other : Version, version.IsWritten calling → other.IsWritten calling →
      version = other) ∧
    (∃ requirement, Requirement.parse builtAgainst.toList = .ok requirement ∧
      ∀ version : Version, requirement.isMetBy version ↔
        version.major = 0 ∧ version.minor = 4 ∧ 52 ≤ version.patch ∧ version.preRelease = []) ∧
    (∀ version : Version, version.IsWritten calling →
      (checkVersion calling).events =
        if version.major = 0 ∧ version.minor = 4 ∧ 52 ≤ version.patch ∧ version.preRelease = []
          then [] else [.mismatch calling]) ∧
    ((Event.mismatch calling).level = "WARN" ∧
      (Event.mismatch calling).fields = [("built_against", "0.4.52"), ("calling", calling)]) ∧
    ∀ fault, (checkVersion calling).result = .error fault →
      (checkVersion calling).events = [] ∧
        ∃ reason, fault = .version calling reason ∧
          fault.message = "Invalid mdbook version `" ++ calling ++ "`: " ++ reason.message := by
  refine ⟨?_, ?_, ⟨.own, Requirement.parse_builtAgainst, fun _ => Requirement.isMetBy_own_iff⟩, ?_,
    ⟨rfl, rfl⟩, ?_⟩
  · constructor
    · intro h
      cases hparse : Version.parse calling.toList with
      | error fault =>
          rw [checkVersion_of_error hparse] at h
          cases h
      | ok version => exact ⟨version, Version.of_parse hparse⟩
    · rintro ⟨version, hwritten⟩
      rw [checkVersion_of_ok (Version.parse_eq_ok_iff.mpr hwritten)]
  · intro version other hversion hother
    have hparse := Version.parse_eq_ok_iff.mpr hversion
    rw [Version.parse_eq_ok_iff.mpr hother] at hparse
    exact (Except.ok.inj hparse).symm
  · intro version hwritten
    rw [checkVersion_of_ok (Version.parse_eq_ok_iff.mpr hwritten), Version.warnings]
    simp only [Requirement.isMetBy_own_iff]
  · intro fault h
    cases hparse : Version.parse calling.toList with
    | error reason =>
        rw [checkVersion_of_error hparse] at h ⊢
        cases h
        have hmessage : (RunFault.version calling reason).message =
            "Invalid mdbook version `" ++ calling ++ "`" ++ ": " ++ reason.message := rfl
        have hmark : "`: " = "`" ++ ": " := by decide
        refine ⟨rfl, reason, rfl, ?_⟩
        rw [hmessage, hmark, ← String.append_assoc]
    | ok version =>
        rw [checkVersion_of_ok hparse] at h
        cases h

/-- Build metadata may begin with a zero, a number in the pre-release may not, and a pre-release of a
release that meets the requirement does not meet it. -/
theorem checkVersion_ok_iff_isWritten_zero :
    (⟨0, 4, 53, [], [['0', '1']]⟩ : Version).IsWritten "0.4.53+01" ∧
      (checkVersion "0.4.53+01").result = .ok () ∧ (checkVersion "0.4.53+01").events = [] ∧
    (⟨0, 4, 53, [['r', 'c']], []⟩ : Version).IsWritten "0.4.53-rc" ∧
      (checkVersion "0.4.53-rc").events = [.mismatch "0.4.53-rc"] ∧
    (checkVersion "0.4.53-01").result =
        .error (.version "0.4.53-01" (.leadingZero .preRelease)) ∧
      (checkVersion "0.4.53-01").events = [] ∧
      (RunFault.version "0.4.53-01" (.leadingZero .preRelease)).message =
        "Invalid mdbook version `0.4.53-01`: invalid leading zero in pre-release identifier" := by
  have hwritten : (⟨0, 4, 53, [], [['0', '1']]⟩ : Version).IsWritten "0.4.53+01" :=
    Version.of_parse rfl
  have hcandidate : (⟨0, 4, 53, [['r', 'c']], []⟩ : Version).IsWritten "0.4.53-rc" :=
    Version.of_parse rfl
  obtain ⟨hok, -, -, hevents, -, -⟩ := checkVersion_ok_iff_isWritten "0.4.53+01"
  obtain ⟨-, -, -, hwarning, -, -⟩ := checkVersion_ok_iff_isWritten "0.4.53-rc"
  obtain ⟨-, -, -, -, -, hfault⟩ := checkVersion_ok_iff_isWritten "0.4.53-01"
  obtain ⟨hsilent, reason, hreason, hmessage⟩ := hfault _ rfl
  cases hreason
  exact ⟨hwritten, hok.mpr ⟨_, hwritten⟩, hevents _ hwritten, hcandidate, hwarning _ hcandidate,
    rfl, hsilent, hmessage.trans (by decide)⟩

end BookFilter
