import BookFilter.Json.Printer
import BookFilter.Json.Quotation

/-!
# Strings read back

Every character is read back from the way it is written in a string, so that a printed text is read
back up to its closing mark, whatever comes after it. What is no text is read back as no text.
-/

namespace BookFilter.Quotation

theorem hexUnit?_control : ∀ n : Fin 32,
    hexUnit? (some '0') (some '0') (some (Nat.digitChar (n.val / 16)))
      (some (Nat.digitChar (n.val % 16))) = some n.val := by
  decide

/-- A code unit that is no half of a pair is a character of its own. -/
theorem join?_unit {code : Nat} (h : code < 0xD800) (parts : List Part) :
    join? (.unit code :: parts) = (join? parts).map (Char.ofNat code :: ·) := by
  have hhigh : isHighSurrogate code = false := by
    simp only [isHighSurrogate, Bool.and_eq_false_iff, decide_eq_false_iff_not]
    omega
  have hlow : isLowSurrogate code = false := by
    simp only [isLowSurrogate, Bool.and_eq_false_iff, decide_eq_false_iff_not]
    omega
  cases parts with
  | nil => simp [join?, hhigh, hlow]
  | cons part parts => cases part <;> simp [join?, hhigh, hlow]

/-- A character is read as one part, which gives the character back. -/
theorem exists_part (c : Char) : ∃ part,
    (∀ rest, scanParts? ((escape c).map some ++ rest) =
      (scanParts? rest).map fun (parts, after) => (part :: parts, after)) ∧
    ∀ parts, join? (part :: parts) = (join? parts).map (c :: ·) := by
  unfold escape
  split
  case h_8 hquote hback _ _ _ _ _ =>
    split
    · next hcontrol =>
        have hlt : c.toNat < 32 := hcontrol
        refine ⟨.unit c.toNat, ?_, ?_⟩
        · intro rest
          have hunit := hexUnit?_control ⟨c.toNat, hlt⟩
          simp only [List.map_cons, List.map_nil, List.cons_append, List.nil_append, scanParts?,
            hunit]
        · intro parts
          rw [join?_unit (by omega), Char.ofNat_toNat]
    · next hcontrol =>
        refine ⟨.char c, ?_, fun parts => rfl⟩
        intro rest
        change scanParts? (some c :: rest) = _
        rw [scanParts?.eq_def]
        split
        case h_6 heq =>
          cases heq
          exact if_neg hcontrol
        all_goals simp_all
  all_goals
    exact ⟨.char _, fun rest => by simp [scanParts?, escapedChar?], fun parts => rfl⟩

theorem scanParts?_escape (text : List Char) (rest : Input) :
    ∃ parts, scanParts? ((text.flatMap escape).map some ++ some '"' :: rest) = some (parts, rest) ∧
      join? parts = some text := by
  induction text with
  | nil => exact ⟨[], by simp [scanParts?], rfl⟩
  | cons c cs ih =>
      obtain ⟨parts, hscan, hjoin⟩ := ih
      obtain ⟨part, hpart, hchar⟩ := exists_part c
      refine ⟨part :: parts, ?_, ?_⟩
      · rw [List.flatMap_cons, List.map_append, List.append_assoc, hpart, hscan]
        rfl
      · rw [hchar, hjoin]
        rfl

/-- A printed string is read back after its opening mark. -/
theorem scan?_print (text : Option String) (rest : Input) :
    ∃ body, (print text).map some ++ rest = some '"' :: body ∧ scan? body = some (text, rest) := by
  cases text with
  | none =>
      refine ⟨['\\', 'u', 'd', '8', '0', '0', '"'].map some ++ rest, ?_, ?_⟩
      · unfold print
        simp
      · have hunit : hexUnit? (some 'd') (some '8') (some '0') (some '0') = some 0xD800 := by decide
        have hjoin : join? [.unit 0xD800] = none := by decide
        simp [scan?, scanParts?, hunit, hjoin]
  | some text =>
      obtain ⟨parts, hscan, hjoin⟩ := scanParts?_escape text.toList rest
      refine ⟨(text.toList.flatMap escape).map some ++ some '"' :: rest, ?_, ?_⟩
      · unfold print printText
        simp
      · simp only [scan?, hscan, Option.map_some, hjoin, String.ofList_toList]

end BookFilter.Quotation
