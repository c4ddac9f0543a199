import BookFilter.Proofs.BookJson
import BookFilter.Proofs.Json.ReadBack
import BookFilter.Request

/-!
# Requests read back

The text of a request, as bytes, is read back as the request, whatever the configuration of the book
is written like, as long as it is accepted. The one condition is on the book: its chapters may nest
no deeper than arrays and objects have room for.
-/

namespace BookFilter

namespace Text

/-- After the bytes of the characters before it, each character is read as itself. -/
theorem charsFrom_utf8Encode (done todo : List Char) :
    charsFrom (done ++ todo).utf8Encode done.utf8Encode.size = todo.map some := by
  induction todo generalizing done with
  | nil =>
      rw [charsFrom, List.append_nil, if_neg (Nat.lt_irrefl _)]
      rfl
  | cons c todo ih =>
      have hdecode : (done ++ c :: todo).utf8Encode.utf8DecodeChar? done.utf8Encode.size =
          some c := by
        rw [ByteArray.utf8DecodeChar?_eq_utf8DecodeChar?_extract, List.utf8Encode_append,
          ByteArray.size_append, ByteArray.extract_append_eq_right rfl rfl,
          List.utf8DecodeChar?_utf8Encode_cons]
      have hsize : (done ++ [c]).utf8Encode.size = done.utf8Encode.size + c.utf8Size := by
        rw [List.utf8Encode_append, ByteArray.size_append, List.utf8Encode_singleton]
        simp
      have hlt : done.utf8Encode.size < (done ++ c :: todo).utf8Encode.size :=
        ByteArray.lt_size_of_isSome_utf8DecodeChar? (by rw [hdecode]; rfl)
      have hrest := ih (done ++ [c])
      rw [hsize, List.append_assoc, List.singleton_append] at hrest
      rw [charsFrom, if_pos hlt, hdecode]
      exact congrArg (some c :: ·) hrest

/-- The bytes of a text are read as its characters. -/
theorem charsOfUtf8_toUTF8 (text : String) : charsOfUtf8 text.toUTF8 = Input.ofString text := by
  rw [charsOfUtf8, String.toUTF8_eq_toByteArray, ← String.utf8Encode_toList]
  exact charsFrom_utf8Encode [] text.toList

end Text

namespace ConfigValue

theorem isSound_of_datetimeOf? {fields : List Field} {value : Datetime}
    (h : datetimeOf? fields = some value) : (Json.object fields).isSound = true := by
  unfold datetimeOf? at h
  split at h
  · rfl
  · cases h

/-- What a configuration is made of is JSON throughout. -/
theorem isSound_of_ofJson? {room : Nat} {value : Json} {config : ConfigValue}
    (h : ofJson? room value = some config) : value.isSound = true := by
  induction room generalizing value config with
  | zero =>
      match value with
      | .bool _ | .number _ | .string _ => rfl
      | .null | .array _ | .object _ | .broken => cases h
  | succ room ih =>
      match value with
      | .bool _ | .number _ | .string _ => rfl
      | .null | .broken => cases h
      | .array items =>
          obtain ⟨values, hvalues, -⟩ := Option.map_eq_some_iff.mp h
          apply Json.isSound_array.mpr
          intro item hitem
          obtain ⟨result, hresult⟩ := exists_of_mapM_eq_some hvalues item hitem
          exact ih hresult
      | .object fields =>
          rw [ofJson?] at h
          split at h
          · obtain ⟨value, hvalue, -⟩ := Option.map_eq_some_iff.mp h
            exact isSound_of_datetimeOf? hvalue
          · obtain ⟨entries, hentries, -⟩ := Option.bind_eq_some_iff.mp h
            apply Json.isSound_object.mpr
            intro field hfield
            obtain ⟨entry, hentry⟩ := exists_of_mapM_eq_some hentries field hfield
            obtain ⟨key, -, hkey⟩ := Option.bind_eq_some_iff.mp hentry
            obtain ⟨result, hresult, -⟩ := Option.bind_eq_some_iff.mp hkey
            exact ih hresult

end ConfigValue

/-- A book configuration is JSON throughout. -/
theorem BookConfig.isSound_of_ofJson {room : Nat} {value : Json} {config : BookConfig}
    (h : BookConfig.ofJson room value = .ok config) : value.isSound = true := by
  cases hvalue : ConfigValue.ofJson? room value with
  | none =>
      rw [BookConfig.ofJson, hvalue] at h
      cases h
  | some read => exact ConfigValue.isSound_of_ofJson? hvalue

/-- How many levels of chapters a book may have to be read: each takes three levels of arrays and
objects, beside those of the book and of the request. -/
def Book.maxDepth : Nat := 41

/-- The book that a text is. -/
def Book.ofText (text : String) : Reading Book := do
  let (value, rest) := Json.read (Input.ofString text)
  let book ← Book.ofJson Request.maxDepth value
  if rest = [] then return book else .error .malformed

/-- The text of a book is read back, unless its chapters nest too deep. -/
theorem Book.ofText_render (book : Book) :
    Book.ofText book.toJson.render =
      if book.depth ≤ Book.maxDepth then .ok book else .error .malformed := by
  calc Book.ofText book.toJson.render
      = (Book.ofJson Request.maxDepth book.toJson >>= fun book => .ok book) := by
        rw [Book.ofText, Json.read_render book.toJson book.isSound_toJson]
        rfl
    _ = if book.depth ≤ Book.maxDepth then .ok book else .error .malformed := by
        have hbook : Book.ofJson Request.maxDepth book.toJson = _ :=
          Book.ofJson_toJson Book.maxDepth (Nat.lt_add_one 1) book
        rw [hbook, ite_ok_bind]

/-- A context as JSON, with a configuration of the book in it. -/
def RunContext.toJson (context : RunContext) (config : Json) : Json :=
  .record [
    ("root", .text context.root), ("config", config), ("renderer", .text context.renderer),
    ("mdbook_version", .text context.version)]

/-- A request as JSON, with a configuration of the book in it. -/
def Request.toJson (request : Request) (config : Json) : Json :=
  .array [request.context.toJson config, request.book.toJson]

/-- The JSON value is the configuration of the request, where it stands in the request. -/
def Request.IsConfig (request : Request) (config : Json) : Prop :=
  BookConfig.ofJson (maxDepth - 2) config = .ok request.context.config

theorem RunContext.nodup_keys : RunContext.keys.Nodup := by decide

theorem RunContext.ofJson_toJson {room : Nat} {context : RunContext} {config : Json}
    (h : BookConfig.ofJson room config = .ok context.config) :
    RunContext.ofJson (room + 1) (context.toJson config) = .ok context := by
  have hconfig : readConfig room config = .ok context.config := by
    rw [readConfig, h]
  rw [RunContext.ofJson, RunContext.toJson, Json.readRecord_record room RunContext.nodup_keys]
  · simp only [List.foldlM_cons, List.foldlM_nil, Draft.take, Json.toText_text, ok_bind, pure_bind,
      Nat.add_sub_cancel, hconfig]
    rfl
  · rfl

namespace Request

variable {request : Request} {config : Json}

theorem isSound_toJson (h : request.IsConfig config) : (request.toJson config).isSound = true := by
  have hconfig := BookConfig.isSound_of_ofJson h
  have hcontext : (request.context.toJson config).isSound = true := by
    rw [RunContext.toJson, Json.isSound_record]
    simp [hconfig, Json.isSound_text]
  rw [toJson, Json.isSound_array]
  simp [hcontext, request.book.isSound_toJson]

theorem ofJson_toJson (h : request.IsConfig config) :
    Request.ofJson (request.toJson config) =
      if request.book.depth ≤ Book.maxDepth then .ok request else .error .malformed := by
  have hcontext : RunContext.ofJson (maxDepth - 1) (request.context.toJson config) = _ :=
    RunContext.ofJson_toJson h
  have hbook : Book.ofJson (maxDepth - 1) request.book.toJson = _ :=
    Book.ofJson_toJson Book.maxDepth Nat.two_pos request.book
  change (RunContext.ofJson (maxDepth - 1) (request.context.toJson config) >>= fun context =>
    Book.ofJson (maxDepth - 1) request.book.toJson >>= fun book =>
      (.ok ⟨context, book⟩ : Reading Request)) = _
  rw [hcontext, hbook, ok_bind, ite_ok_bind]

/-- The text of a request is read back, unless the chapters of the book nest too deep. -/
theorem ofBytes_render (h : request.IsConfig config) :
    Request.ofBytes (request.toJson config).render.toUTF8 =
      if request.book.depth ≤ Book.maxDepth then .ok request else .error .malformed := by
  calc Request.ofBytes (request.toJson config).render.toUTF8
      = Request.ofInput (Input.ofString (request.toJson config).render) := by
        rw [Request.ofBytes, Text.charsOfUtf8_toUTF8]
    _ = (Request.ofJson (request.toJson config) >>= fun request => .ok request) := by
        rw [Request.ofInput, Json.read_render _ (isSound_toJson h)]
        rfl
    _ = if request.book.depth ≤ Book.maxDepth then .ok request else .error .malformed := by
        rw [ofJson_toJson h, ite_ok_bind]

/-- What a request is read from is an array of a context and a book. -/
theorem exists_of_ofJson {value : Json} (h : Request.ofJson value = .ok request) :
    ∃ context book, value = .array [context, book] ∧
      RunContext.ofJson (maxDepth - 1) context = .ok request.context ∧
      Book.ofJson (maxDepth - 1) book = .ok request.book := by
  obtain ⟨items, hitems, hparts⟩ := exists_of_bind_eq_ok h
  have hvalue : value = .array items := by
    unfold Json.items at hitems
    split at hitems
    · cases hitems
      rfl
    · cases hitems
  match items, hparts with
  | [], hparts => cases hparts
  | [_], hparts =>
      obtain ⟨_, -, hnone⟩ := exists_of_bind_eq_ok hparts
      cases hnone
  | [context, book], hparts =>
      obtain ⟨readContext, hcontext, hrest⟩ := exists_of_bind_eq_ok hparts
      obtain ⟨readBook, hbook, hrequest⟩ := exists_of_bind_eq_ok hrest
      cases hrequest
      exact ⟨context, book, hvalue, hcontext, hbook⟩
  | _ :: _ :: _ :: _, hparts =>
      obtain ⟨_, -, hmany⟩ := exists_of_bind_eq_ok hparts
      cases hmany

/-- Nothing may stand after the request. -/
theorem exists_of_ofBytes {bytes : ByteArray} (h : Request.ofBytes bytes = .ok request) :
    ∃ value, Json.read (Text.charsOfUtf8 bytes) = (value, []) ∧
      Request.ofJson value = .ok request := by
  unfold Request.ofBytes ofInput at h
  generalize Json.read (Text.charsOfUtf8 bytes) = parsed at h ⊢
  obtain ⟨value, rest⟩ := parsed
  obtain ⟨read, hread, hrest⟩ := exists_of_bind_eq_ok h
  cases rest with
  | nil =>
      cases hrest
      exact ⟨value, rfl, hread⟩
  | cons _ _ => cases hrest

/-- The book of a request that can be read has no more levels of chapters than that. -/
theorem depth_le_of_ofBytes {bytes : ByteArray} (h : Request.ofBytes bytes = .ok request) :
    request.book.depth ≤ Book.maxDepth := by
  obtain ⟨value, -, hvalue⟩ := exists_of_ofBytes h
  obtain ⟨-, book, -, -, hbook⟩ := exists_of_ofJson hvalue
  have hdepth : 3 * request.book.depth ≤ 124 := Book.depth_le_of_ofJson hbook
  change request.book.depth ≤ 41
  omega

end Request

end BookFilter
