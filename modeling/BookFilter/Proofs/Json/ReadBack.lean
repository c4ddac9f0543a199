import BookFilter.Json.Reader
import BookFilter.Proofs.Json.Numerals
import BookFilter.Proofs.Json.Quotations

/-!
# JSON values read back

A printed value splits into the tokens of the value, and these are put together to the value again,
whatever is still open around it. So a value that is JSON throughout is read back from its text.
-/

namespace BookFilter

mutual

/-- The tokens of a value. A broken part has none. -/
def Json.tokens : Json → List Token
  | .null => [.null]
  | .bool value => [.bool value]
  | .number value => [.number value]
  | .string text => [.string text]
  | .array items => .openArray :: (itemTokens items ++ [.closeArray])
  | .object fields => .openObject :: (fieldTokens fields ++ [.closeObject])
  | .broken => []

/-- The tokens of a key and its value. -/
def Field.tokens : Field → List Token
  | ⟨key, value⟩ => .string key :: .colon :: value.tokens

/-- The tokens of items with commas between them. -/
def itemTokens : List Json → List Token
  | [] => []
  | [item] => item.tokens
  | item :: items => item.tokens ++ .comma :: itemTokens items

/-- The tokens of fields with commas between them. -/
def fieldTokens : List Field → List Token
  | [] => []
  | [field] => field.tokens
  | field :: fields => field.tokens ++ .comma :: fieldTokens fields

end

namespace Token

open Numeral (IsOver isOver_cons)

theorem scan_of_next {c : Char} {cs rest : Input} {token : Token} (hblank : isBlank c = false)
    (h : next? c cs = some (token, rest)) : scan (some c :: cs) = token :: scan rest := by
  rw [scan, if_neg (by simp [hblank])]
  split
  · next h' =>
      rw [h] at h'
      cases h'
      rfl
  · next h' =>
      rw [h] at h'
      cases h'

/-- A character that may begin a numeral begins nothing else. -/
theorem next?_numeral {c : Char} (h : c = '-' ∨ ∃ d : Fin 10, c = Nat.digitChar d.val)
    (cs : Input) :
    isBlank c = false ∧
      next? c cs =
        (Numeral.scan? (some c :: cs)).map fun (value, rest) => (.number value, rest) := by
  have hdigit : ∀ d : Fin 10, isBlank (Nat.digitChar d.val) = false ∧
      Nat.digitChar d.val ∉ ['[', ']', '\x7b', '\x7d', ',', ':', '"', 'n', 't', 'f'] := by
    decide
  have hmarks : isBlank c = false ∧
      c ∉ ['[', ']', '\x7b', '\x7d', ',', ':', '"', 'n', 't', 'f'] := by
    rcases h with rfl | ⟨d, rfl⟩
    · decide
    · exact hdigit d
  refine ⟨hmarks.1, ?_⟩
  have hnot := hmarks.2
  unfold next?
  split
  case h_11 => rfl
  all_goals simp at hnot

theorem scan_numeral (value : Numeral) {rest : Input} (h : IsOver rest) :
    scan (value.print.map some ++ rest) = .number value :: scan rest := by
  obtain ⟨c, cs, hprint, hc⟩ : ∃ c cs, value.print = c :: cs ∧
      (c = '-' ∨ ∃ d : Fin 10, c = Nat.digitChar d.val) := by
    rw [Numeral.print_eq]
    cases value.negative with
    | true => exact ⟨'-', _, rfl, Or.inl rfl⟩
    | false =>
        obtain ⟨d, cs, hdigits⟩ := Numeral.exists_toDigits_cons value.whole
        rw [hdigits]
        exact ⟨_, _, rfl, Or.inr ⟨d, rfl⟩⟩
  have hscan := Numeral.scan?_print value h
  rw [hprint] at hscan ⊢
  obtain ⟨hblank, hnext⟩ := next?_numeral hc (cs.map some ++ rest)
  apply scan_of_next hblank
  change next? c (cs.map some ++ rest) = _
  rw [hnext]
  exact congrArg (Option.map _) hscan

theorem scan_string (text : Option String) (rest : Input) :
    scan ((Quotation.print text).map some ++ rest) = .string text :: scan rest := by
  obtain ⟨body, hprint, hscan⟩ := Quotation.scan?_print text rest
  rw [hprint]
  apply scan_of_next rfl
  change (Quotation.scan? body).map _ = _
  rw [hscan]
  rfl

end Token

theorem soundItems_cons {item : Json} {items : List Json} :
    soundItems (item :: items) = true ↔ item.isSound = true ∧ soundItems items = true := by
  rw [soundItems, Bool.and_eq_true]

theorem soundFields_cons {field : Field} {fields : List Field} :
    soundFields (field :: fields) = true ↔ field.isSound = true ∧ soundFields fields = true := by
  rw [soundFields, Bool.and_eq_true]

theorem Json.print_array (items : List Json) :
    (Json.array items).print = '[' :: Json.printItems items ++ [']'] := rfl

theorem Json.print_object (fields : List Field) :
    (Json.object fields).print = '\x7b' :: Json.printFields fields ++ ['\x7d'] := rfl

open Numeral (IsOver isOver_cons isOver_nil)

mutual

/-- A printed value splits into its tokens. -/
theorem Json.scan_print (value : Json) (h : value.isSound = true) {rest : Input}
    (hrest : IsOver rest) :
    Token.scan (value.print.map some ++ rest) = value.tokens ++ Token.scan rest := by
  match value with
  | .null => exact Token.scan_of_next rfl rfl
  | .bool true => exact Token.scan_of_next rfl rfl
  | .bool false => exact Token.scan_of_next rfl rfl
  | .number value => exact Token.scan_numeral value hrest
  | .string text => exact Token.scan_string text rest
  | .array items =>
      have hitems := scan_printItems items h rest
      rw [Json.print_array, List.map_append, List.append_assoc, Json.tokens, List.cons_append,
        List.append_assoc]
      exact (Token.scan_of_next rfl rfl).trans (congrArg _ hitems)
  | .object fields =>
      have hfields := scan_printFields fields h rest
      rw [Json.print_object, List.map_append, List.append_assoc, Json.tokens, List.cons_append,
        List.append_assoc]
      exact (Token.scan_of_next rfl rfl).trans (congrArg _ hfields)
  | .broken => cases h

theorem Field.scan_print (field : Field) (h : field.isSound = true) {rest : Input}
    (hrest : IsOver rest) :
    Token.scan (field.print.map some ++ rest) = field.tokens ++ Token.scan rest := by
  match field with
  | ⟨key, value⟩ =>
      have hvalue := Json.scan_print value h hrest
      rw [Field.print, List.map_append, List.append_assoc, Token.scan_string]
      exact congrArg _ ((Token.scan_of_next rfl rfl).trans (congrArg _ hvalue))

theorem scan_printItems (items : List Json) (h : soundItems items = true) (rest : Input) :
    Token.scan ((Json.printItems items).map some ++ some ']' :: rest) =
      itemTokens items ++ .closeArray :: Token.scan rest := by
  match items with
  | [] => exact Token.scan_of_next rfl rfl
  | [item] =>
      have hitem := (soundItems_cons.mp h).1
      rw [Json.printItems, item.scan_print hitem (isOver_cons (by decide))]
      exact congrArg _ (Token.scan_of_next rfl rfl)
  | item :: next :: items =>
      obtain ⟨hitem, hrest⟩ := soundItems_cons.mp h
      have hitems := scan_printItems (next :: items) hrest rest
      rw [Json.printItems, List.map_append, List.append_assoc, itemTokens, List.append_assoc]
      · refine (item.scan_print hitem (isOver_cons (by decide))).trans (congrArg _ ?_)
        exact (Token.scan_of_next rfl rfl).trans (congrArg _ hitems)
      · exact List.cons_ne_nil _ _
      · exact List.cons_ne_nil _ _

theorem scan_printFields (fields : List Field) (h : soundFields fields = true) (rest : Input) :
    Token.scan ((Json.printFields fields).map some ++ some '\x7d' :: rest) =
      fieldTokens fields ++ .closeObject :: Token.scan rest := by
  match fields with
  | [] => exact Token.scan_of_next rfl rfl
  | [field] =>
      have hfield := (soundFields_cons.mp h).1
      rw [Json.printFields, field.scan_print hfield (isOver_cons (by decide))]
      exact congrArg _ (Token.scan_of_next rfl rfl)
  | field :: next :: fields =>
      obtain ⟨hfield, hrest⟩ := soundFields_cons.mp h
      have hfields := scan_printFields (next :: fields) hrest rest
      rw [Json.printFields, List.map_append, List.append_assoc, fieldTokens, List.append_assoc]
      · refine (field.scan_print hfield (isOver_cons (by decide))).trans (congrArg _ ?_)
        exact (Token.scan_of_next rfl rfl).trans (congrArg _ hfields)
      · exact List.cons_ne_nil _ _
      · exact List.cons_ne_nil _ _

end

namespace Json

/-- The tokens of a value do not begin by closing an array. -/
theorem exists_tokens (value : Json) (h : value.isSound = true) :
    ∃ token tokens, value.tokens = token :: tokens ∧ token ≠ .closeArray := by
  match value with
  | .null | .bool _ | .number _ | .string _ | .array _ | .object _ =>
      exact ⟨_, _, rfl, Token.noConfusion⟩
  | .broken => cases h

theorem exists_itemTokens (item : Json) (items : List Json)
    (h : soundItems (item :: items) = true) :
    ∃ token tokens, itemTokens (item :: items) = token :: tokens ∧ token ≠ .closeArray := by
  obtain ⟨token, tokens, htokens, hopen⟩ := exists_tokens item (soundItems_cons.mp h).1
  cases items with
  | nil => exact ⟨token, tokens, htokens, hopen⟩
  | cons next items =>
      refine ⟨token, tokens ++ .comma :: itemTokens (next :: items), ?_, hopen⟩
      rw [itemTokens, htokens]
      · rfl
      · exact List.cons_ne_nil _ _

theorem exists_fieldTokens (key : Option String) (value : Json) (fields : List Field) :
    ∃ tokens, fieldTokens (⟨key, value⟩ :: fields) = .string key :: tokens := by
  cases fields with
  | nil => exact ⟨_, rfl⟩
  | cons next fields => exact ⟨_, rfl⟩

theorem readValue_openArray (opened : List Open) {token : Token} (h : token ≠ .closeArray)
    (rest : List Token) :
    readValue opened (.openArray :: token :: rest) =
      readValue (.array [] :: opened) (token :: rest) := by
  rw [readValue]
  intro tokens heq
  exact h (List.cons.inj heq).1

mutual

/-- The tokens of a value are put together to the value. -/
theorem readValue_tokens (value : Json) (h : value.isSound = true) (opened : List Open)
    (rest : List Token) :
    readValue opened (value.tokens ++ rest) = readAfter value opened rest := by
  match value with
  | .null | .bool _ | .number _ | .string _ | .array [] | .object [] => rfl
  | .array (item :: items) =>
      have hitems := readValue_itemTokens (item :: items) h (List.cons_ne_nil _ _) [] opened rest
      obtain ⟨token, tokens, htokens, hopen⟩ := exists_itemTokens item items h
      rw [Json.tokens, List.cons_append, List.append_assoc]
      rw [htokens, List.cons_append] at hitems ⊢
      exact (readValue_openArray opened hopen _).trans hitems
  | .object (⟨key, value⟩ :: fields) =>
      have hfields :=
        readKey_fieldTokens (⟨key, value⟩ :: fields) h (List.cons_ne_nil _ _) [] opened rest
      obtain ⟨tokens, htokens⟩ := exists_fieldTokens key value fields
      rw [Json.tokens, List.cons_append, List.append_assoc]
      rw [htokens, List.cons_append] at hfields ⊢
      exact hfields
  | .broken => cases h

theorem readValue_itemTokens (items : List Json) (h : soundItems items = true) (hne : items ≠ [])
    (done : List Json) (opened : List Open) (rest : List Token) :
    readValue (.array done :: opened) (itemTokens items ++ .closeArray :: rest) =
      readAfter (.array (done.reverse ++ items)) opened rest := by
  match items with
  | [] => exact absurd rfl hne
  | [item] =>
      rw [itemTokens, readValue_tokens item (soundItems_cons.mp h).1, readAfter]
  | item :: next :: items =>
      obtain ⟨hitem, hitems⟩ := soundItems_cons.mp h
      rw [itemTokens, List.append_assoc, readValue_tokens item hitem, List.cons_append, readAfter,
        readValue_itemTokens (next :: items) hitems (List.cons_ne_nil _ _), List.reverse_cons,
        List.append_assoc]
      · rfl
      · exact List.cons_ne_nil _ _

theorem readKey_fieldTokens (fields : List Field) (h : soundFields fields = true)
    (hne : fields ≠ []) (done : List Field) (opened : List Open) (rest : List Token) :
    readKey done opened (fieldTokens fields ++ .closeObject :: rest) =
      readAfter (.object (done.reverse ++ fields)) opened rest := by
  match fields with
  | [] => exact absurd rfl hne
  | [⟨key, value⟩] =>
      rw [fieldTokens, Field.tokens, List.cons_append, List.cons_append, readKey,
        readValue_tokens value (soundFields_cons.mp h).1, readAfter]
  | ⟨key, value⟩ :: next :: fields =>
      obtain ⟨hvalue, hfields⟩ := soundFields_cons.mp h
      rw [fieldTokens, Field.tokens, List.append_assoc, List.cons_append, List.cons_append, readKey,
        readValue_tokens value hvalue, List.cons_append, readAfter,
        readKey_fieldTokens (next :: fields) hfields (List.cons_ne_nil _ _), List.reverse_cons,
        List.append_assoc]
      · rfl
      · exact List.cons_ne_nil _ _

end

/-- A value that is JSON throughout is read back from its text. -/
theorem read_render (value : Json) (h : value.isSound = true) :
    read (Input.ofString value.render) = (value, []) := by
  have hscan := value.scan_print h isOver_nil
  calc read (Input.ofString value.render)
      = readValue [] (Token.scan (value.print.map some ++ [])) := by
        rw [read, Input.ofString, render, String.toList_ofList, List.append_nil]
    _ = readValue [] (value.tokens ++ []) := by
        rw [hscan, Token.scan]
    _ = readAfter value [] [] := readValue_tokens value h [] []
    _ = (value, []) := by
        rw [readAfter]

end Json

end BookFilter
