import BookFilter.Proofs.Json.Numerals
import BookFilter.Proofs.Json.Records
import BookFilter.Version

/-!
# Which texts are versions

A version is written in exactly one way: three decimal numbers without leading zeros, then its
segments behind a hyphen and behind a plus sign, where there are any. Reading accepts these texts
and no others.
-/

namespace BookFilter

namespace Version

/-- The segment is made of letters, digits and hyphens, and there is something in it. -/
structure IsSegment (segment : List Char) : Prop where
  ne_nil : segment ≠ []
  chars : ∀ c ∈ segment, c.isAlphanum ∨ c = '-'

/-- The segment is a number of more than one digit that begins with a zero. -/
def IsPadded (segment : List Char) : Prop :=
  (∀ c ∈ segment, c.isDigit) ∧ 1 < segment.length ∧ segment.head? = some '0'

/-- Versions as they can be written. -/
structure IsValid (version : Version) : Prop where
  major_lt : version.major < numberBound
  minor_lt : version.minor < numberBound
  patch_lt : version.patch < numberBound
  preRelease : ∀ segment ∈ version.preRelease, IsSegment segment ∧ ¬ IsPadded segment
  build : ∀ segment ∈ version.build, IsSegment segment

/-- Segments with points between them behind a mark, or nothing if there are none. -/
def printOptional (mark : Char) (segments : List (List Char)) : List Char :=
  if segments = [] then [] else mark :: ['.'].intercalate segments

/-- The text of a version. -/
def print (version : Version) : List Char :=
  Nat.toDigits 10 version.major ++ '.' :: (Nat.toDigits 10 version.minor ++ '.' ::
    (Nat.toDigits 10 version.patch ++
      (printOptional '-' version.preRelease ++ printOptional '+' version.build)))

section Numbers

variable {part : Part} {value n : Nat} {text rest digits : List Char}

/-- The text does not go on with a digit. -/
def NoDigit (text : List Char) : Prop :=
  ∀ c ∈ text.head?, c.isDigit = false

theorem le_ofDigitChars (digits : List Char) (value : Nat) :
    value ≤ Nat.ofDigitChars 10 digits value := by
  induction digits generalizing value with
  | nil => exact Nat.le_refl value
  | cons c digits ih =>
      rw [Nat.ofDigitChars_cons]
      have hmore := ih (10 * value + (c.toNat - '0'.toNat))
      omega

theorem ofDigitChars_cons (c : Char) (digits : List Char) (value : Nat) :
    Nat.ofDigitChars 10 (c :: digits) value =
      Nat.ofDigitChars 10 digits (value * 10 + digitValue c) := by
  rw [Nat.ofDigitChars_cons, Nat.mul_comm 10 value, digitValue]

/-- A digit in front of a text without one belongs to the digits before that text. -/
theorem exists_cons_of_append_eq {c : Char} {cs : List Char} (hc : c.isDigit)
    (hrest : NoDigit rest) (happ : digits ++ rest = c :: cs) :
    ∃ more, digits = c :: more ∧ more ++ rest = cs := by
  cases digits with
  | nil =>
      have hnone := hrest c (by simp [show rest = c :: cs from happ])
      rw [hc] at hnone
      cases hnone
  | cons d more =>
      obtain ⟨rfl, hcs⟩ := List.cons.inj happ
      exact ⟨more, rfl, hcs⟩

/-- The digits that are read are all that the text goes on with; after a zero there are none. -/
theorem readDigits_eq_ok_iff (hvalue : value < numberBound) :
    readDigits part value text = .ok (n, rest) ↔
      ∃ digits, digits ++ rest = text ∧ (∀ c ∈ digits, c.isDigit) ∧ NoDigit rest ∧
        Nat.ofDigitChars 10 digits value = n ∧ n < numberBound ∧ (value = 0 → digits = []) := by
  induction text generalizing value with
  | nil =>
      rw [readDigits]
      constructor
      · intro h
        cases h
        exact ⟨[], rfl, by simp, by simp [NoDigit], rfl, hvalue, fun _ => rfl⟩
      · rintro ⟨digits, happ, -, -, rfl, -, -⟩
        obtain ⟨rfl, rfl⟩ := List.append_eq_nil_iff.mp happ
        rfl
  | cons c cs ih =>
      rw [readDigits]
      by_cases hc : c.isDigit
      · rw [if_pos hc]
        by_cases hzero : value = 0
        · rw [if_pos hzero]
          constructor
          · intro h
            cases h
          · rintro ⟨digits, happ, -, hrest, -, -, hnone⟩
            obtain ⟨more, rfl, -⟩ := exists_cons_of_append_eq hc hrest happ
            cases hnone hzero
        · rw [if_neg hzero]
          by_cases hlarge : numberBound ≤ value * 10 + digitValue c
          · rw [if_pos hlarge]
            constructor
            · intro h
              cases h
            · -- Further digits do not make the number smaller.
              rintro ⟨digits, happ, -, hrest, rfl, hlt, -⟩
              obtain ⟨more, rfl, -⟩ := exists_cons_of_append_eq hc hrest happ
              rw [ofDigitChars_cons] at hlt
              have hle := le_ofDigitChars more (value * 10 + digitValue c)
              omega
          · rw [if_neg hlarge, ih (Nat.lt_of_not_le hlarge)]
            constructor
            · rintro ⟨more, rfl, hdigits, hrest, hn, hlt, -⟩
              refine ⟨c :: more, rfl, List.forall_mem_cons.mpr ⟨hc, hdigits⟩, hrest, ?_, hlt,
                fun h => absurd h hzero⟩
              rw [ofDigitChars_cons, hn]
            · rintro ⟨digits, happ, hdigits, hrest, hn, hlt, -⟩
              obtain ⟨more, rfl, hmore⟩ := exists_cons_of_append_eq hc hrest happ
              rw [ofDigitChars_cons] at hn
              refine ⟨more, hmore, (List.forall_mem_cons.mp hdigits).2, hrest, hn, hlt, ?_⟩
              intro h
              omega
      · rw [if_neg hc]
        constructor
        · intro h
          cases h
          exact ⟨[], rfl, by simp, by simpa [NoDigit] using hc, rfl, hvalue, fun _ => rfl⟩
        · rintro ⟨digits, happ, hdigits, -, rfl, -, -⟩
          cases digits with
          | nil =>
              cases happ
              rfl
          | cons d more =>
              obtain ⟨rfl, -⟩ := List.cons.inj happ
              exact absurd (hdigits d (List.mem_cons_self ..)) hc

theorem digitValue_bounds {c : Char} (hc : c.isDigit) :
    digitValue c < 10 ∧ c.toNat = 48 + digitValue c := by
  have hbounds : 48 ≤ c.toNat ∧ c.toNat ≤ 57 := by
    simpa [Char.isDigit, UInt32.le_iff_toNat_le] using hc
  have hvalue : digitValue c = c.toNat - 48 := rfl
  omega

theorem digitChar_digitValue {c : Char} (hc : c.isDigit) : Nat.digitChar (digitValue c) = c := by
  obtain ⟨hlt, hcode⟩ := digitValue_bounds hc
  apply Char.toNat_inj.mp
  rw [Nat.toNat_digitChar_of_lt_ten hlt, hcode]

/-- Digits after a number other than zero are the last digits of the number that they make of it. -/
theorem toDigits_ofDigitChars (hdigits : ∀ c ∈ digits, c.isDigit) (hvalue : value ≠ 0) :
    Nat.toDigits 10 (Nat.ofDigitChars 10 digits value) = Nat.toDigits 10 value ++ digits := by
  induction digits generalizing value with
  | nil => exact (List.append_nil _).symm
  | cons c digits ih =>
      obtain ⟨hc, hmore⟩ := List.forall_mem_cons.mp hdigits
      have hlast := Nat.toDigits_append_toDigits (b := 10) (n := value) (by omega)
        (Nat.pos_of_ne_zero hvalue) (digitValue_bounds hc).1
      rw [Nat.toDigits_of_lt_base (digitValue_bounds hc).1, digitChar_digitValue hc] at hlast
      rw [ofDigitChars_cons, ih hmore (by omega), Nat.mul_comm value 10, ← hlast,
        List.append_assoc]
      rfl

theorem toDigits_ofDigitChars_cons {c : Char} (hc : c.isDigit) (hdigits : ∀ c ∈ digits, c.isDigit)
    (hzero : digitValue c = 0 → digits = []) :
    Nat.toDigits 10 (Nat.ofDigitChars 10 digits (digitValue c)) = c :: digits := by
  have hfirst : Nat.toDigits 10 (digitValue c) = [c] := by
    rw [Nat.toDigits_of_lt_base (digitValue_bounds hc).1, digitChar_digitValue hc]
  by_cases hvalue : digitValue c = 0
  · rw [hzero hvalue]
    exact hfirst
  · rw [toDigits_ofDigitChars hdigits hvalue, hfirst]
    rfl

/-- The number that is read is written in decimal without leading zeros. -/
theorem readNumber_eq_ok_iff :
    readNumber part text = .ok (n, rest) ↔
      Nat.toDigits 10 n ++ rest = text ∧ n < numberBound ∧ NoDigit rest := by
  have hsmall : ∀ {c : Char}, c.isDigit → digitValue c < numberBound := fun hc =>
    Nat.lt_of_lt_of_le (digitValue_bounds hc).1 (by decide)
  constructor
  · intro h
    cases text with
    | nil => cases h
    | cons c cs =>
        rw [readNumber] at h
        split at h
        · next hc =>
            obtain ⟨digits, rfl, hdigits, hrest, rfl, hlt, hzero⟩ :=
              (readDigits_eq_ok_iff (hsmall hc)).mp h
            rw [toDigits_ofDigitChars_cons hc hdigits hzero]
            exact ⟨rfl, hlt, hrest⟩
        · cases h
  · rintro ⟨rfl, hlt, hrest⟩
    obtain ⟨d, ds, hprint, -, hzero⟩ := Numeral.exists_toDigits n
    have hdigits : ∀ c ∈ Nat.toDigits 10 n, c.isDigit := fun c hc =>
      Nat.isDigit_of_mem_toDigits (by omega) (by omega) hc
    have hvalue : Nat.ofDigitChars 10 (Nat.toDigits 10 n) 0 = n := Nat.ofDigitChars_ten_toDigits
    rw [hprint, Numeral.digitChars, List.map_cons] at hdigits hvalue ⊢
    obtain ⟨hfirst, hmore⟩ := List.forall_mem_cons.mp hdigits
    rw [ofDigitChars_cons, Nat.zero_mul, Nat.zero_add] at hvalue
    rw [List.cons_append, readNumber, if_pos hfirst, readDigits_eq_ok_iff (hsmall hfirst)]
    refine ⟨_, rfl, hmore, hrest, hvalue, hlt, ?_⟩
    intro hnone
    have hd : d = 0 := by
      have hcode := Nat.toNat_digitChar_of_lt_ten d.isLt
      rw [(digitValue_bounds hfirst).2, hnone] at hcode
      omega
    rw [hzero hd]
    rfl

theorem readNumber_point (part : Part) (hn : n < numberBound) (rest : List Char) :
    readNumber part (Nat.toDigits 10 n ++ '.' :: rest) = .ok (n, '.' :: rest) :=
  readNumber_eq_ok_iff.mpr ⟨rfl, hn, by rintro c ⟨⟩; rfl⟩

theorem readPoint_eq_ok_iff : readPoint part text = .ok rest ↔ '.' :: rest = text := by
  cases text with
  | nil =>
      constructor
      · intro h
        cases h
      · intro h
        cases h
  | cons c cs =>
      rw [readPoint]
      split
      · next hc => simp [hc, eq_comm]
      · next hc => simp [Ne.symm hc]

end Numbers

section Segments

variable {part last : Part} {mark : Char} {segments : List (List Char)}
  {segment begun text rest : List Char}

/-- The segment may stand in the part. -/
def Fits (part : Part) (segment : List Char) : Prop :=
  IsSegment segment ∧ (part = .preRelease → ¬ IsPadded segment)

/-- The text goes on neither with a character of a segment nor with a point. -/
def NoSegment (text : List Char) : Prop :=
  ∀ c ∈ text.head?, isSegmentChar c = false ∧ c ≠ '.'

theorem hasLeadingZero_iff : hasLeadingZero segment = true ↔ IsPadded segment := by
  simp [hasLeadingZero, IsPadded, and_assoc]

theorem isSegment_iff :
    IsSegment segment ↔ segment ≠ [] ∧ ∀ c ∈ segment, isSegmentChar c = true := by
  constructor
  · intro h
    exact ⟨h.ne_nil, fun c hc => by simpa [isSegmentChar] using h.chars c hc⟩
  · rintro ⟨hne, hchars⟩
    exact ⟨hne, fun c hc => by simpa [isSegmentChar] using hchars c hc⟩

theorem checkSegment_of_fits (h : Fits part segment) : checkSegment part segment = .ok segment := by
  rw [checkSegment, if_neg h.1.ne_nil, if_neg]
  rintro ⟨hpart, hzero⟩
  exact h.2 hpart (hasLeadingZero_iff.mp hzero)

theorem fits_of_checkSegment (hchars : ∀ c ∈ segment, isSegmentChar c = true)
    (h : checkSegment part segment = .ok text) : text = segment ∧ Fits part segment := by
  unfold checkSegment at h
  split at h
  · cases h
  · next hne =>
      split at h
      · cases h
      · next hzero =>
          cases h
          refine ⟨rfl, isSegment_iff.mpr ⟨hne, hchars⟩, ?_⟩
          intro hpart hpadded
          exact hzero ⟨hpart, hasLeadingZero_iff.mpr hpadded⟩

theorem readSegments_append (h : ∀ c ∈ segment, isSegmentChar c = true) (begun rest : List Char) :
    readSegments part begun (segment ++ rest) =
      readSegments part (segment.reverse ++ begun) rest := by
  induction segment generalizing begun with
  | nil => rfl
  | cons c segment ih =>
      obtain ⟨hc, hsegment⟩ := List.forall_mem_cons.mp h
      rw [List.cons_append, readSegments, if_pos hc, ih hsegment, List.reverse_cons,
        List.append_assoc]
      rfl

/-- Segments with points between them are read one after the other. -/
theorem readSegments_intercalate (h : ∀ other ∈ segment :: segments, Fits part other)
    (hrest : NoSegment rest) :
    readSegments part [] (['.'].intercalate (segment :: segments) ++ rest) =
      .ok (segment :: segments, rest) := by
  induction segments generalizing segment with
  | nil =>
      have hfits := h segment (List.mem_cons_self ..)
      rw [List.intercalate_singleton, readSegments_append (isSegment_iff.mp hfits.1).2,
        List.append_nil]
      cases rest with
      | nil =>
          rw [readSegments, List.reverse_reverse, checkSegment_of_fits hfits]
          rfl
      | cons c cs =>
          obtain ⟨hc, hpoint⟩ := hrest c rfl
          rw [readSegments, if_neg (Bool.eq_false_iff.mp hc), List.reverse_reverse,
            checkSegment_of_fits hfits, ok_bind, if_neg hpoint]
          rfl
  | cons next segments ih =>
      obtain ⟨hfits, hmore⟩ := List.forall_mem_cons.mp h
      rw [List.intercalate_cons_cons, List.append_assoc, List.append_assoc,
        readSegments_append (isSegment_iff.mp hfits.1).2, List.append_nil, List.singleton_append,
        readSegments, if_neg (by decide), List.reverse_reverse, checkSegment_of_fits hfits,
        ok_bind, if_pos rfl, ih hmore]
      rfl

/-- What is read is what the text begins with, and it is as it has to be. -/
theorem of_readSegments (hbegun : ∀ c ∈ begun, isSegmentChar c = true)
    (h : readSegments part begun text = .ok (segments, rest)) :
    segments ≠ [] ∧ ['.'].intercalate segments ++ rest = begun.reverse ++ text ∧
      (∀ other ∈ segments, Fits part other) ∧ NoSegment rest := by
  have hreverse : ∀ {begun : List Char}, (∀ c ∈ begun, isSegmentChar c = true) →
      ∀ c ∈ begun.reverse, isSegmentChar c = true := by
    intro begun h c hc
    exact h c (List.mem_reverse.mp hc)
  induction text generalizing begun segments with
  | nil =>
      obtain ⟨segment, hcheck, h⟩ := exists_of_bind_eq_ok h
      cases h
      obtain ⟨rfl, hfits⟩ := fits_of_checkSegment (hreverse hbegun) hcheck
      exact ⟨List.cons_ne_nil _ _, by rw [List.intercalate_singleton], by simpa using hfits,
        by simp [NoSegment]⟩
  | cons c cs ih =>
      rw [readSegments] at h
      split at h
      · next hc =>
          obtain ⟨hne, happ, hfits, hrest⟩ := ih (List.forall_mem_cons.mpr ⟨hc, hbegun⟩) h
          exact ⟨hne, by simpa using happ, hfits, hrest⟩
      · next hc =>
          obtain ⟨segment, hcheck, h⟩ := exists_of_bind_eq_ok h
          obtain ⟨rfl, hfits⟩ := fits_of_checkSegment (hreverse hbegun) hcheck
          split at h
          · next hpoint =>
              obtain ⟨⟨more, after⟩, hmore, h⟩ := exists_of_bind_eq_ok h
              cases h
              obtain ⟨hne, happ, hall, hrest⟩ := ih (by simp) hmore
              obtain ⟨next, others, rfl⟩ := List.exists_cons_of_ne_nil hne
              refine ⟨List.cons_ne_nil _ _, ?_, List.forall_mem_cons.mpr ⟨hfits, hall⟩, hrest⟩
              rw [List.intercalate_cons_cons, List.append_assoc, List.append_assoc, happ, hpoint]
              rfl
          · next hpoint =>
              cases h
              refine ⟨List.cons_ne_nil _ _, by rw [List.intercalate_singleton],
                by simpa using hfits, ?_⟩
              rintro d ⟨⟩
              exact ⟨by simpa using hc, hpoint⟩

theorem readOptional_printOptional (h : ∀ segment ∈ segments, Fits part segment)
    (hmark : ∀ c ∈ rest.head?, c ≠ mark) (hrest : NoSegment rest) :
    readOptional part last mark (printOptional mark segments ++ rest) =
      .ok (segments, if segments = [] then last else part, rest) := by
  cases segments with
  | nil =>
      cases rest with
      | nil => rfl
      | cons c cs =>
          change readOptional part last mark (c :: cs) = .ok ([], last, c :: cs)
          rw [readOptional, if_neg (hmark c rfl)]
  | cons segment segments =>
      have hne : segment :: segments ≠ [] := List.cons_ne_nil _ _
      rw [printOptional, if_neg hne, if_neg hne, List.cons_append, readOptional, if_pos rfl,
        readSegments_intercalate h hrest]
      rfl

theorem of_readOptional {now : Part}
    (h : readOptional part last mark text = .ok (segments, now, rest)) :
    printOptional mark segments ++ rest = text ∧ ∀ segment ∈ segments, Fits part segment := by
  unfold readOptional at h
  split at h
  · cases h
    exact ⟨rfl, by simp⟩
  · next c cs =>
      split at h
      · next hc =>
          obtain ⟨⟨more, after⟩, hmore, h⟩ := exists_of_bind_eq_ok h
          cases h
          obtain ⟨hne, happ, hfits, -⟩ := of_readSegments (by simp) hmore
          refine ⟨?_, hfits⟩
          rw [printOptional, if_neg hne, List.cons_append, happ, hc]
          rfl
      · cases h
        exact ⟨rfl, by simp⟩

/-- Behind a number comes a hyphen or a plus sign, if anything. -/
theorem head_printOptional {mark : Char} {segments : List (List Char)} {rest : List Char} {c : Char}
    (h : c ∈ (printOptional mark segments ++ rest).head?) : c = mark ∨ c ∈ rest.head? := by
  by_cases hnil : segments = []
  · rw [printOptional, if_pos hnil] at h
    exact .inr h
  · rw [printOptional, if_neg hnil, List.cons_append] at h
    cases h
    exact .inl rfl

theorem eq_of_head_printOptional {mark : Char} {segments : List (List Char)} {c : Char}
    (h : c ∈ (printOptional mark segments).head?) : c = mark := by
  rw [← List.append_nil (printOptional _ _)] at h
  exact (head_printOptional h).resolve_right (by simp)

end Segments

variable {text : List Char} {version : Version}

/-- No digit comes right after the patch number. -/
theorem noDigit_marks (preRelease build : List (List Char)) :
    NoDigit (printOptional '-' preRelease ++ printOptional '+' build) := by
  intro c hc
  rcases head_printOptional hc with rfl | hc
  · rfl
  · rw [eq_of_head_printOptional hc]
    rfl

theorem readNumber_patch (h : version.IsValid) :
    readNumber .patch (Nat.toDigits 10 version.patch ++
        (printOptional '-' version.preRelease ++ printOptional '+' version.build)) =
      .ok (version.patch, printOptional '-' version.preRelease ++ printOptional '+' version.build) :=
  readNumber_eq_ok_iff.mpr ⟨rfl, h.patch_lt, noDigit_marks _ _⟩

/-- The pre-release of a valid version is read back. -/
theorem readOptional_preRelease (h : version.IsValid) (last : Part) :
    readOptional .preRelease last '-'
        (printOptional '-' version.preRelease ++ printOptional '+' version.build) =
      .ok (version.preRelease, if version.preRelease = [] then last else .preRelease,
        printOptional '+' version.build) :=
  readOptional_printOptional
    (fun segment hmem => ⟨(h.preRelease segment hmem).1, fun _ => (h.preRelease segment hmem).2⟩)
    (fun _ hc => eq_of_head_printOptional hc ▸ by decide)
    (fun _ hc => eq_of_head_printOptional hc ▸ by decide)

/-- The build metadata of a valid version is read back. -/
theorem readOptional_build (h : version.IsValid) (last : Part) :
    readOptional .build last '+' (printOptional '+' version.build) =
      .ok (version.build, if version.build = [] then last else .build, []) := by
  have hfits : ∀ segment ∈ version.build, Fits .build segment :=
    fun segment hmem => ⟨h.build segment hmem, fun h => nomatch h⟩
  rw [← readOptional_printOptional hfits (by simp) (by simp [NoSegment]), List.append_nil]

/-- The text of a valid version is read back. -/
theorem parse_print (h : version.IsValid) : parse version.print = .ok version := by
  have hmajor := readNumber_point .major h.major_lt
  have hminor := readNumber_point .minor h.minor_lt
  have hpoint : ∀ part rest, readPoint part ('.' :: rest) = .ok rest :=
    fun _ _ => readPoint_eq_ok_iff.mpr rfl
  rw [parse, if_neg (by simp [print])]
  simp only [print, hmajor, hminor, hpoint, readNumber_patch h, readOptional_preRelease h,
    readOptional_build h, ok_bind]
  rfl

/-- What is read is the text of a valid version. -/
theorem of_parse (h : parse text = .ok version) : version.IsValid ∧ version.print = text := by
  unfold parse at h
  split at h
  · cases h
  · obtain ⟨⟨major, afterMajor⟩, hmajor, h⟩ := exists_of_bind_eq_ok h
    obtain ⟨forMinor, hpoint, h⟩ := exists_of_bind_eq_ok h
    obtain ⟨⟨minor, afterMinor⟩, hminor, h⟩ := exists_of_bind_eq_ok h
    obtain ⟨forPatch, hpoint', h⟩ := exists_of_bind_eq_ok h
    obtain ⟨⟨patch, afterPatch⟩, hpatch, h⟩ := exists_of_bind_eq_ok h
    obtain ⟨⟨preRelease, last, afterPre⟩, hpre, h⟩ := exists_of_bind_eq_ok h
    obtain ⟨⟨build, last', afterBuild⟩, hbuild, h⟩ := exists_of_bind_eq_ok h
    cases afterBuild with
    | cons c cs => cases h
    | nil =>
        cases h
        obtain ⟨rfl, hmajor_lt, -⟩ := readNumber_eq_ok_iff.mp hmajor
        obtain rfl := readPoint_eq_ok_iff.mp hpoint
        obtain ⟨rfl, hminor_lt, -⟩ := readNumber_eq_ok_iff.mp hminor
        obtain rfl := readPoint_eq_ok_iff.mp hpoint'
        obtain ⟨rfl, hpatch_lt, -⟩ := readNumber_eq_ok_iff.mp hpatch
        obtain ⟨rfl, hpre_fits⟩ := of_readOptional hpre
        obtain ⟨rfl, hbuild_fits⟩ := of_readOptional hbuild
        refine ⟨⟨hmajor_lt, hminor_lt, hpatch_lt, ?_, ?_⟩, ?_⟩
        · exact fun segment hmem => ⟨(hpre_fits segment hmem).1, (hpre_fits segment hmem).2 rfl⟩
        · exact fun segment hmem => (hbuild_fits segment hmem).1
        · rw [print, List.append_nil]

/-- Reading accepts the texts of valid versions and no others. -/
theorem parse_eq_ok_iff : parse text = .ok version ↔ version.IsValid ∧ version.print = text := by
  constructor
  · exact of_parse
  · rintro ⟨hvalid, rfl⟩
    exact parse_print hvalid

/-- The text is that of the version, which is a valid one. -/
def IsWritten (version : Version) (text : String) : Prop :=
  version.IsValid ∧ version.print = text.toList

end Version

end BookFilter
